/-
Docstrings/Proofs/CommandLine/Accepted.lean

The command lines that are accepted, and the configurations that they give.

Accepted are the words of items of which none comes twice and both paths come, with
the options ended at the end or not at all.

Design.  Reading is compared with the items read so far.  What has been read is
their words, and then the words of the option that waits, if there is one:

    words  =  wordsOf items  ++  words that wait  ++  "--" if the options have ended

`Accounts` is this invariant.  One word keeps it (`Accounts.step`), and so do all
words of a command line (`Accounts.readWords`).  The other way round, the words of
an item lead on from wherever the items before them led (`Settles.item`), and so do
the words of many (`Settles.items`).

* `settles_iff` — what has been given when the words of a command line are read.
* `parse_eq_ok_iff` — the command lines that are accepted.
* `givesConfig_of_parse` — a command line that is accepted gives a configuration.
* `givesConfig_iff` — the configuration that one gives, by what its items give.
* `configuration_iff_items` — the same, item by item.
-/
import Mathlib.Data.List.Nodup
import Mathlib.Data.List.Perm.Basic
import Docstrings.Proofs.CommandLine.Items

namespace Docstrings

namespace CommandLine

/-! ### From the words to the items -/

/-- The words of a path option that waits. -/
def Pending.words : Pending → List String
  | ⟨o, none⟩ => [(Opt.path o).word]
  | ⟨o, some value⟩ => [(Opt.path o).word, value]

/-- The words that have been read are those of the items, of the option that waits, and
of the end of the options; and what the items give has been given, each option once. -/
structure Accounts (words : List String) (items : List Item) (s : State) : Prop where
  words_eq : words = wordsOf items ++ s.pending?.elim [] Pending.words ++ endOf s.terminated
  given_eq : s.given = items.map Item.given
  distinct : s.seen.Nodup
  plain : ∀ o value, s.pending? = some ⟨o, some value⟩ → IsPlain value

namespace Accounts

variable {words : List String} {items : List Item} {s s' : State}

theorem initial : Accounts [] [] State.initial := ⟨rfl, rfl, List.nodup_nil, nofun⟩

/-- Giving an option, with an item for it. -/
theorem give (h : Accounts words items s) (hpending : s.pending? = none)
    (hrunning : s.terminated = false) {i : Item}
    (hgive : settled (s.give i.given) = .ok s') :
    Accounts (words ++ i.words) (items ++ [i]) s' := by
  obtain ⟨hnew, -, rfl⟩ := State.settled_give_eq_ok_iff.1 hgive
  refine ⟨?_, ?_, ?_, ?_⟩
  · simp [h.words_eq, hpending, hrunning]
  · simp [h.given_eq]
  · rw [State.seen_append, ← List.concat_eq_append]
    exact h.distinct.concat hnew
  · intro o value hp
    rw [hpending] at hp
    exact absurd hp nofun

/-- The option that waits becomes an item when it is given, and nothing waits then. -/
theorem flush (h : Accounts words items s) (hflush : settled s.flush = .ok s') :
    ∃ items', Accounts words items' s' ∧ s'.pending? = none ∧ s'.terminated = s.terminated := by
  rcases State.settled_flush_eq_ok_iff.1 hflush with
    ⟨hnone, rfl⟩ | ⟨o, value, hp, hnew, hne, rfl⟩
  · exact ⟨items, h, hnone, rfl⟩
  · let i : Item := .separate o value hne (h.plain o value hp)
    refine ⟨items ++ [i], ⟨?_, ?_, ?_, nofun⟩, rfl, rfl⟩
    · simp [h.words_eq, hp, Pending.words, i, Item.words_separate]
    · simp [h.given_eq, i, Item.given]
    · have hseen : ({ s with given := s.given ++ [.path o value], pending? := none } : State).seen
          = s.seen ++ [.path o] := s.seen_append (.path o value)
      rw [hseen, ← List.concat_eq_append]
      exact h.distinct.concat hnew

/-- **One word more.** -/
theorem step (h : Accounts words items s) {word : String} (hstep : s.step word = .ok s') :
    ∃ items', Accounts (words ++ [word]) items' s' := by
  obtain ⟨hrunning, hadvance⟩ := State.step_eq_ok_iff.1 hstep
  cases hadvance with
  | ends =>
    refine ⟨items, ?_, h.given_eq, h.distinct, h.plain⟩
    simp [h.words_eq, hrunning]
  | @waits s₀ o hflush =>
    obtain ⟨items', h', hnone, hend⟩ := h.flush hflush
    rw [hrunning] at hend
    refine ⟨items', ?_, h'.given_eq, h'.distinct, nofun⟩
    simp [h'.words_eq, hnone, hend, Pending.words]
  | @gives s₀ s' g hflush hgive =>
    obtain ⟨items', h', hnone, hend⟩ := h.flush hflush
    rw [hrunning] at hend
    cases g with
    | path o value =>
      have hne : value ≠ "" := by
        have herror := (State.settled_give_eq_ok_iff.1 hgive).2.1
        simpa [Given.error?] using herror
      exact ⟨_, h'.give hnone hend (i := .attached o value hne) hgive⟩
    | verbose => exact ⟨_, h'.give hnone hend (i := .verbose) hgive⟩
  | fills o hpending hplain =>
    refine ⟨items, ?_, h.given_eq, h.distinct, ?_⟩
    · simp [h.words_eq, hpending, hrunning, Pending.words]
    · rintro o' value' ⟨⟩
      exact hplain

/-- All words of a command line. -/
theorem readWords (h : Accounts words items s) {more : List String}
    (hread : readWords s more = .ok s') : ∃ items', Accounts (words ++ more) items' s' := by
  induction more generalizing words items s with
  | nil =>
    obtain rfl : s = s' := Except.ok.inj hread
    exact ⟨items, by simpa using h⟩
  | cons word more ih =>
    obtain ⟨s₁, hstep, hrest⟩ := readWords_cons_eq_ok_iff.1 hread
    obtain ⟨items', h'⟩ := h.step hstep
    obtain ⟨items'', h''⟩ := ih h' hrest
    exact ⟨items'', by simpa using h''⟩

end Accounts

/-! ### From the items to the words -/

/-- Some options have been given, when the one that waits is counted. -/
def Settles (s : State) (given : List Given) : Prop :=
  settled s.flush = .ok ⟨given, none, false⟩

namespace Settles

variable {s : State} {given : List Given}

theorem initial : Settles .initial [] := rfl

theorem running (h : Settles s given) : s.terminated = false :=
  (State.terminated_of_settled_flush h).symm

/-- An option in one word is given by it. -/
theorem word (h : Settles s given) {g : Given} (hnew : g.option ∉ given.map Given.option)
    (herror : g.error? = none) :
    readWords s [g.word] = .ok ⟨given ++ [g], none, false⟩ := by
  have hgive : settled ((⟨given, none, false⟩ : State).give g)
      = .ok ⟨given ++ [g], none, false⟩ :=
    State.settled_give_eq_ok_iff.2 ⟨hnew, herror, rfl⟩
  have hstep : s.step g.word = .ok ⟨given ++ [g], none, false⟩ :=
    State.step_eq_ok_iff.2 ⟨h.running, .gives g h hgive⟩
  exact readWords_cons_eq_ok_iff.2 ⟨_, hstep, readWords_nil _⟩

/-- A path option waits after its word, and has its value after the next one. -/
theorem words (h : Settles s given) (o : PathOption) {value : String} (hplain : IsPlain value) :
    readWords s [(Opt.path o).word, value] = .ok ⟨given, some ⟨o, some value⟩, false⟩ := by
  have hwaits : s.step (Opt.path o).word = .ok ⟨given, some ⟨o, none⟩, false⟩ :=
    State.step_eq_ok_iff.2 ⟨h.running, .waits o h⟩
  have hfills : State.step ⟨given, some ⟨o, none⟩, false⟩ value
      = .ok ⟨given, some ⟨o, some value⟩, false⟩ :=
    State.step_eq_ok_iff.2 ⟨rfl, .fills o rfl hplain⟩
  exact readWords_cons_eq_ok_iff.2
    ⟨_, hwaits, readWords_cons_eq_ok_iff.2 ⟨_, hfills, readWords_nil _⟩⟩

/-- The words of an item give its option, if it has not been given. -/
theorem item (h : Settles s given) (i : Item) (hnew : i.option ∉ given.map Given.option) :
    ∃ s', readWords s i.words = .ok s' ∧ Settles s' (given ++ [i.given]) := by
  cases i with
  | attached o value hne =>
    have herror : (Given.path o value).error? = none := by simp [Given.error?, hne]
    rw [Item.words_attached]
    exact ⟨_, h.word hnew herror, State.settled_flush_of_pending?_none rfl⟩
  | separate o value hne hplain =>
    rw [Item.words_separate]
    refine ⟨_, h.words o hplain, ?_⟩
    exact State.settled_flush_eq_ok_iff.2 (.inr ⟨o, value, rfl, hnew, hne, rfl⟩)
  | verbose =>
    rw [Item.words_verbose]
    exact ⟨_, h.word hnew rfl, State.settled_flush_of_pending?_none rfl⟩

/-- The words of some items give their options, if none comes twice. -/
theorem items (h : Settles s given) (items : List Item)
    (hdistinct : (given.map Given.option ++ items.map Item.option).Nodup) :
    ∃ s', readWords s (wordsOf items) = .ok s' ∧ Settles s' (given ++ items.map Item.given) := by
  induction items generalizing s given with
  | nil => exact ⟨s, rfl, by simpa using h⟩
  | cons i items ih =>
    have hnew : i.option ∉ given.map Given.option := by
      intro hmem
      exact (List.nodup_append.1 hdistinct).2.2 _ hmem _ (by simp) rfl
    obtain ⟨s₁, hread, h₁⟩ := h.item i hnew
    have hrest : ((given ++ [i.given]).map Given.option ++ items.map Item.option).Nodup := by
      simpa [Item.option] using hdistinct
    obtain ⟨s', hread', h'⟩ := ih h₁ hrest
    exact ⟨s', readWords_append_eq_ok_iff.2 ⟨s₁, hread, hread'⟩, by simpa using h'⟩

/-- The end of the options, if they are ended, leaves what was given. -/
theorem ended (h : Settles s given) (terminated : Bool) :
    ∃ s', readWords s (endOf terminated) = .ok s' ∧
      settled s'.flush = .ok ⟨given, none, terminated⟩ := by
  cases terminated with
  | false => exact ⟨s, readWords_nil s, h⟩
  | true =>
    have hends : s.step "--" = .ok { s with terminated := true } :=
      State.step_eq_ok_iff.2 ⟨h.running, .ends⟩
    refine ⟨_, readWords_cons_eq_ok_iff.2 ⟨_, hends, readWords_nil _⟩, ?_⟩
    -- what waits is given as it would have been before
    rcases State.settled_flush_eq_ok_iff.1 h with ⟨hnone, rfl⟩ | ⟨o, value, hp, hnew, hne, heq⟩
    · exact State.settled_flush_of_pending?_none rfl
    · refine State.settled_flush_eq_ok_iff.2 (.inr ⟨o, value, hp, hnew, hne, ?_⟩)
      rw [(State.mk.inj heq).1]

end Settles

/-! ### Command lines -/

/-- **What has been given** when the words of a command line are read: the options of
items of which these are the words. -/
theorem settles_iff {words : List String} {s : State} :
    ((readWords .initial words).bind fun s => settled s.flush) = .ok s ↔
      ∃ items, words = wordsOf items ++ endOf s.terminated ∧ (items.map Item.option).Nodup ∧
        s.given = items.map Item.given ∧ s.pending? = none := by
  constructor
  · intro h
    obtain ⟨s₁, hread, hflush⟩ := bind_eq_ok_iff.1 h
    obtain ⟨items, haccounts⟩ := Accounts.initial.readWords hread
    obtain ⟨items', haccounts', hnone, -⟩ := haccounts.flush hflush
    refine ⟨items', ?_, ?_, haccounts'.given_eq, hnone⟩
    · simpa [hnone] using haccounts'.words_eq
    · have hdistinct := haccounts'.distinct
      rw [State.seen, haccounts'.given_eq, List.map_map] at hdistinct
      exact hdistinct
  · rintro ⟨items, rfl, hdistinct, hgiven, hnone⟩
    obtain ⟨given, pending?, terminated⟩ := s
    obtain rfl : given = items.map Item.given := hgiven
    obtain rfl : pending? = none := hnone
    obtain ⟨s₁, hread, hsettles⟩ := Settles.initial.items items hdistinct
    obtain ⟨s₂, hread', hflush⟩ := hsettles.ended terminated
    exact bind_eq_ok_iff.2 ⟨s₂, readWords_append_eq_ok_iff.2 ⟨s₁, hread, hread'⟩, hflush⟩

/-- **The command lines that are accepted** are the words of items of which none comes
twice and both paths come, with the options ended at the end or not at all. -/
theorem parse_eq_ok_iff {words : List String} {found : Matches} :
    parse .standard words = .ok found ↔
      ∃ items terminated, words = wordsOf items ++ endOf terminated ∧
        (items.map Item.option).Nodup ∧ (∀ o, Opt.path o ∈ items.map Item.option) ∧
        found = .ofGiven (items.map Item.given) := by
  constructor
  · intro h
    obtain ⟨s, hfinish, rfl⟩ := map_eq_ok_iff.1 h
    obtain ⟨s₀, hread, hfinish⟩ := bind_eq_ok_iff.1 hfinish
    obtain ⟨s₁, hflush, hrequired⟩ := bind_eq_ok_iff.1 hfinish
    obtain ⟨hseen, rfl⟩ := State.requirement_standard_eq_ok_iff.1 hrequired
    obtain ⟨items, hwords, hdistinct, hgiven, -⟩ :=
      settles_iff.1 (bind_eq_ok_iff.2 ⟨s₀, hread, hflush⟩)
    rw [State.seen, hgiven, List.map_map] at hseen
    exact ⟨items, s.terminated, hwords, hdistinct, hseen, by rw [hgiven]⟩
  · rintro ⟨items, terminated, hwords, hdistinct, hseen, rfl⟩
    let s : State := ⟨items.map Item.given, none, terminated⟩
    have hsettles : ((readWords .initial words).bind fun s => settled s.flush) = .ok s :=
      settles_iff.2 ⟨items, hwords, hdistinct, rfl, rfl⟩
    obtain ⟨s₀, hread, hflush⟩ := bind_eq_ok_iff.1 hsettles
    have hrequired : State.requirement .standard s = .ok s := by
      refine State.requirement_standard_eq_ok_iff.2 ⟨?_, rfl⟩
      rw [State.seen, List.map_map]
      exact hseen
    have hfinish : State.finish .standard s₀ = .ok s := bind_eq_ok_iff.2 ⟨s, hflush, hrequired⟩
    exact map_eq_ok_iff.2 ⟨s, bind_eq_ok_iff.2 ⟨s₀, hread, hfinish⟩, rfl⟩

/-! ### Configurations -/

theorem map_option_eq (items : List Item) :
    items.map Item.option = (items.map Item.given).map Given.option := by
  rw [List.map_map]
  rfl

/-- What has to be given for a configuration. -/
def givenFor (c : Config) : List Given :=
  [.path .filePath c.filePath, .path .outputFile c.outputFile]
    ++ if c.verbose then [.verbose] else []

theorem mem_givenFor_iff {c : Config} {g : Given} :
    g ∈ givenFor c ↔ g = .path .filePath c.filePath ∨ g = .path .outputFile c.outputFile ∨
      (g = .verbose ∧ c.verbose = true) := by
  unfold givenFor
  cases c.verbose <;> simp

theorem nodup_option_givenFor (c : Config) : ((givenFor c).map Given.option).Nodup := by
  unfold givenFor
  cases c.verbose <;> simp [Given.option]

theorem Given.valueFor?_eq_some_iff {o : PathOption} {g : Given} {value : String} :
    g.valueFor? o = some value ↔ g = .path o value := by
  cases g with
  | path o' value' =>
    by_cases ho : o' = o
    · simp [valueFor?, ho]
    · simp [valueFor?, ho]
  | verbose => simp [valueFor?]

section

variable {given : List Given}

/-- Where no option is given twice, the value that counts is the one that is given. -/
theorem findSome?_valueFor?_eq_some_iff (hdistinct : (given.map Given.option).Nodup)
    {o : PathOption} {value : String} :
    given.findSome? (Given.valueFor? o) = some value ↔ Given.path o value ∈ given := by
  have hmem {value : String} (h : given.findSome? (Given.valueFor? o) = some value) :
      Given.path o value ∈ given := by
    obtain ⟨g, hg, hvalue⟩ := List.exists_of_findSome?_eq_some h
    exact Given.valueFor?_eq_some_iff.1 hvalue ▸ hg
  refine ⟨hmem, fun h => ?_⟩
  have hsome : (given.findSome? (Given.valueFor? o)).isSome = true :=
    List.findSome?_isSome_iff.2 ⟨_, h, by rw [Given.valueFor?_eq_some_iff.2 rfl]; rfl⟩
  obtain ⟨value', hvalue'⟩ := Option.isSome_iff_exists.1 hsome
  -- the two are given by the same option, and so they are the same
  have hsame : Given.path o value' = Given.path o value :=
    List.inj_on_of_nodup_map hdistinct (hmem hvalue') h rfl
  rw [hvalue', (Given.path.inj hsame).2]

/-- The options given come to a configuration if they are those that it takes, in some
order. -/
theorem toConfig_ofGiven_eq_ok_iff (hdistinct : (given.map Given.option).Nodup) {c : Config} :
    (Matches.ofGiven given).toConfig = .ok c ↔ given.Perm (givenFor c) := by
  have hperm : given.Perm (givenFor c) ↔ ∀ g, g ∈ given ↔ g ∈ givenFor c :=
    List.perm_ext_iff_of_nodup (.of_map _ hdistinct) (.of_map _ (nodup_option_givenFor c))
  rw [hperm, Matches.toConfig_eq_ok_iff, Matches.ofGiven, Matches.mk.injEq]
  constructor
  · rintro ⟨hfile, hout, hverbose⟩ g
    rw [mem_givenFor_iff]
    cases g with
    | path o value =>
      rw [← findSome?_valueFor?_eq_some_iff hdistinct]
      cases o with
      | filePath =>
        rw [hfile]
        simpa using eq_comm
      | outputFile =>
        rw [hout]
        simpa using eq_comm
    | verbose =>
      rw [← hverbose]
      simp
  · intro h
    refine ⟨?_, ?_, ?_⟩
    · rw [findSome?_valueFor?_eq_some_iff hdistinct, h]
      simp [mem_givenFor_iff]
    · rw [findSome?_valueFor?_eq_some_iff hdistinct, h]
      simp [mem_givenFor_iff]
    · rw [Bool.eq_iff_iff, decide_eq_true_iff, h]
      simp [mem_givenFor_iff]

end

/-- The command line is accepted, and gives the configuration. -/
def GivesConfig (words : List String) (c : Config) : Prop :=
  ∃ found, parse .standard words = .ok found ∧ found.toConfig = .ok c

/-- Whatever is accepted gives a configuration. -/
theorem givesConfig_of_parse {words : List String} {found : Matches}
    (h : parse .standard words = .ok found) : ∃ c, GivesConfig words c := by
  obtain ⟨items, -, -, hdistinct, hseen, hfound⟩ := parse_eq_ok_iff.1 h
  rw [map_option_eq] at hdistinct hseen
  have hvalue (o : PathOption) : ∃ value,
      (items.map Item.given).findSome? (Given.valueFor? o) = some value := by
    obtain ⟨g, hg, hoption⟩ := List.mem_map.1 (hseen o)
    cases g with
    | path o' value =>
      obtain rfl : o' = o := Opt.path.inj hoption
      exact ⟨value, (findSome?_valueFor?_eq_some_iff hdistinct).2 hg⟩
    | verbose => exact absurd hoption nofun
  obtain ⟨filePath, hfile⟩ := hvalue .filePath
  obtain ⟨outputFile, hout⟩ := hvalue .outputFile
  refine ⟨⟨filePath, outputFile, found.verbose⟩, found, h, Matches.toConfig_eq_ok_iff.2 ?_⟩
  rw [hfound, Matches.ofGiven, hfile, hout]

/-- A configuration is given if all that it takes is given, and nothing else. -/
theorem givesConfig_iff {words : List String} {c : Config} :
    GivesConfig words c ↔
      ∃ items terminated, words = wordsOf items ++ endOf terminated ∧
        (items.map Item.given).Perm (givenFor c) := by
  constructor
  · rintro ⟨found, hparse, hconfig⟩
    obtain ⟨items, terminated, hwords, hdistinct, -, rfl⟩ := parse_eq_ok_iff.1 hparse
    rw [map_option_eq] at hdistinct
    exact ⟨items, terminated, hwords, (toConfig_ofGiven_eq_ok_iff hdistinct).1 hconfig⟩
  · rintro ⟨items, terminated, hwords, hperm⟩
    -- the options given are those of the configuration, and both paths are among them
    have hdistinct : ((items.map Item.given).map Given.option).Nodup :=
      (hperm.map Given.option).nodup_iff.2 (nodup_option_givenFor c)
    have hseen (o : PathOption) : Opt.path o ∈ items.map Item.option := by
      rw [map_option_eq, (hperm.map Given.option).mem_iff]
      cases o <;> simp [givenFor, Given.option]
    refine ⟨_, parse_eq_ok_iff.2 ⟨items, terminated, hwords, ?_, hseen, rfl⟩,
      (toConfig_ofGiven_eq_ok_iff hdistinct).2 hperm⟩
    rw [map_option_eq]
    exact hdistinct

/-- Only the switch gives the switch. -/
theorem map_given_eq_switch_iff {items : List Item} {verbose : Bool} :
    items.map Item.given = (if verbose then [.verbose] else []) ↔
      items = if verbose then [.verbose] else [] := by
  cases verbose with
  | false => simp
  | true =>
    have hswitch (i : Item) : i.given = .verbose ↔ i = .verbose := by
      cases i <;> simp [Item.given]
    simp [List.map_eq_singleton_iff, hswitch]

/-- **What gives a configuration.**  A command line gives a configuration exactly if it
is made, in whatever order, of one item for the input file, one for the output file,
and the switch if more is to be told; after them the options may be ended. -/
theorem configuration_iff_items (words : List String) (c : Config) :
    GivesConfig words c ↔
      ∃ (file output : Item) (items : List Item) (terminated : Bool),
        file.given = .path .filePath c.filePath ∧
        output.given = .path .outputFile c.outputFile ∧
        items.Perm ([file, output] ++ if c.verbose then [.verbose] else []) ∧
        words = wordsOf items ++ endOf terminated := by
  rw [givesConfig_iff]
  constructor
  · rintro ⟨items, terminated, hwords, hperm⟩
    -- what is given is given by items in that order
    have hcomp : Relation.Comp (· = List.map Item.given ·) List.Perm (givenFor c) items := by
      rw [List.eq_map_comp_perm]
      exact hperm.symm
    obtain ⟨ordered, hordered, hitems⟩ := hcomp
    obtain ⟨file, rest, rfl, hfile, hrest⟩ := List.map_eq_cons_iff.1 hordered.symm
    obtain ⟨output, rest, rfl, hout, hrest⟩ := List.map_eq_cons_iff.1 hrest
    refine ⟨file, output, items, terminated, hfile, hout, ?_, hwords⟩
    rw [map_given_eq_switch_iff.1 hrest] at hitems
    exact hitems.symm
  · rintro ⟨file, output, items, terminated, hfile, hout, hperm, hwords⟩
    refine ⟨items, terminated, hwords, (hperm.map Item.given).trans ?_⟩
    rw [List.map_append, map_given_eq_switch_iff.2 rfl, List.map_cons, List.map_singleton, hfile,
      hout]
    exact .refl _

end CommandLine

end Docstrings

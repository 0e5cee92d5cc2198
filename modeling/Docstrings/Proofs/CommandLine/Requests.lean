/-
Docstrings/Proofs/CommandLine/Requests.lean

The command lines that are answered with the help or the version.

A request is granted if what stands before it is complete: items, none of them twice, and
nothing else.  What stands behind it does not matter.  So a command line is answered
exactly if it is

    p ++ h :: s        `p` complete, `h` a word that asks, `s` arbitrary

and what spoils `p` turns the request into an error.  Since no word of an item asks, the
`h` of an answered command line is the first word of it that asks.

* `parse_eq_error_request_iff` — the command lines that are answered.
* `place_of_wordsOf_eq` — a word of a list of items, with the place it has among them.
* `not_spoiled_of_isComplete` — what cannot stand before a request.
* `request_granted_iff` — both together.
-/
import Docstrings.Proofs.CommandLine.Accepted
import Docstrings.Proofs.CommandLine.Stops

namespace Docstrings

namespace CommandLine

/-! ### Granted requests -/

/-- The words are those of items, of which none comes twice. -/
def IsComplete (words : List String) : Prop :=
  ∃ items, words = wordsOf items ∧ (items.map Item.option).Nodup

/-- When complete words have been read, the option that waits can be given. -/
theorem readWords_of_isComplete {words : List String} (h : IsComplete words) :
    ∃ s, readWords .initial words = .ok s ∧ s.terminated = false ∧
      ∃ s₀, settled s.flush = .ok s₀ := by
  obtain ⟨items, rfl, hdistinct⟩ := h
  obtain ⟨s, hread, hsettles⟩ := Settles.initial.items items hdistinct
  exact ⟨s, hread, hsettles.running, _, hsettles⟩

/-- Where the option that waits can be given, and the options have not ended, complete words
have been read. -/
theorem isComplete_of_readWords {words : List String} {s s₀ : State}
    (hread : readWords .initial words = .ok s) (hrunning : s.terminated = false)
    (hflush : settled s.flush = .ok s₀) : IsComplete words := by
  obtain ⟨items, haccounts⟩ := Accounts.initial.readWords hread
  obtain ⟨items', haccounts', hnone, hend⟩ := haccounts.flush hflush
  refine ⟨items', ?_, ?_⟩
  · simpa [hnone, hend, hrunning] using haccounts'.words_eq
  · have hdistinct := haccounts'.distinct
    rw [State.seen, haccounts'.given_eq, List.map_map] at hdistinct
    exact hdistinct

theorem parse_eq_error_request_iff {cmd : Command} {words : List String} {r : Request} :
    parse cmd words = .error r.stop ↔
      ∃ p h s, words = p ++ h :: s ∧ IsComplete p ∧ r.IsAskedBy h := by
  have hreadAll : parse cmd words = .error r.stop ↔ readAll words = .error r.stop := by
    rw [parse_eq_bind, bind_eq_error_iff]
    constructor
    · rintro (hread | ⟨s, -, hrequired⟩)
      · exact hread
      · -- what is missing is no request
        obtain ⟨-, -, hstop⟩ := State.requirement_eq_error_iff.1 (map_eq_error_iff.1 hrequired)
        exact absurd hstop (r.stop_ne_usage _)
    · exact .inl
  rw [hreadAll, readAll_eq_error_request_iff]
  constructor
  · rintro ⟨p, h, s, state, hwords, hread, hstep⟩
    obtain ⟨hrunning, ⟨s₀, hflush⟩, hasked⟩ := State.step_eq_error_request_iff.1 hstep
    exact ⟨p, h, s, hwords, isComplete_of_readWords hread hrunning hflush, hasked⟩
  · rintro ⟨p, h, s, hwords, hcomplete, hasked⟩
    obtain ⟨state, hread, hrunning, hflush⟩ := readWords_of_isComplete hcomplete
    exact ⟨p, h, s, state, hwords, hread,
      State.step_eq_error_request_iff.2 ⟨hrunning, hflush, hasked⟩⟩

/-! ### The words of items -/

/-- The option that a word names, with a value or without. -/
def named? (word : String) : Option Opt :=
  match Word.ofChars word.toList with
  | .long name _ => Opt.ofName? name
  | _ => none

theorem named?_of_isPlain {word : String} (h : IsPlain word) : named? word = none := by
  unfold named?
  rw [ofChars_eq_plain_iff_isPlain.2 h]

theorem Given.named?_word (g : Given) : named? g.word = some g.option := by
  unfold named?
  rw [g.ofChars_word]
  exact g.option.ofName?_name

theorem Opt.named?_word (o : Opt) : named? o.word = some o := by
  unfold named?
  rw [o.ofChars_word]
  exact o.ofName?_name

/-- Each item names its option once. -/
theorem filterMap_named?_wordsOf (items : List Item) :
    (wordsOf items).filterMap named? = items.map Item.option := by
  induction items with
  | nil => rfl
  | cons i items ih =>
    have hwords : i.words.filterMap named? = [i.option] := by
      cases i with
      | attached o value hne =>
        rw [Item.words_attached, List.filterMap_cons_some (Given.named?_word _)]
        rfl
      | separate o value hne hplain =>
        rw [Item.words_separate, List.filterMap_cons_some (Opt.named?_word _),
          List.filterMap_cons_none (named?_of_isPlain hplain)]
        rfl
      | verbose =>
        rw [Item.words_verbose, List.filterMap_cons_some (Given.named?_word _)]
        rfl
    rw [wordsOf_cons, List.filterMap_append, hwords, ih, List.map_cons]
    rfl

/-- What a word is among the words of some items: the first one of an item, or a value
that is a word of its own. -/
inductive Place (before : List String) (word : String) (after : List String) : Prop
  | first (i : Item) (rest : List Item) (hform : Word.ofChars word.toList = i.form)
    (hafter : word :: after = i.words ++ wordsOf rest)
  | value (o : PathOption) (hplain : IsPlain word)
    (hbefore : before.getLast? = some (Opt.path o).word)

theorem Place.append_left {before after : List String} {word : String} (front : List String)
    (h : Place before word after) : Place (front ++ before) word after := by
  cases h with
  | first i rest hform hafter => exact .first i rest hform hafter
  | value o hplain hbefore => exact .value o hplain (by rw [List.getLast?_append, hbefore]; rfl)

/-- **Every word of some items has its place.** -/
theorem place_of_wordsOf_eq {items : List Item} {before after : List String} {word : String}
    (h : wordsOf items = before ++ word :: after) : Place before word after := by
  induction items generalizing before with
  | nil => exact absurd h.symm (by simp)
  | cons i items ih =>
    cases before with
    | nil =>
      obtain ⟨head, tail, hwords, hform⟩ := i.ofChars_head
      have hhead : word = head := by
        rw [wordsOf_cons, hwords] at h
        exact (List.cons.inj h).1.symm
      exact .first i items (hhead ▸ hform) h.symm
    | cons first before =>
      -- the word is the value of this item, or it is among the words of the others
      have hone {g : Given} (hwords : i.words = [g.word]) : Place (first :: before) word after := by
        rw [wordsOf_cons, hwords] at h
        exact (ih (List.cons.inj h).2).append_left [first]
      cases i with
      | attached o value hne => exact hone (Item.words_attached o value hne)
      | verbose => exact hone Item.words_verbose
      | separate o value hne hplain =>
        rw [wordsOf_cons, Item.words_separate] at h
        obtain ⟨rfl, hrest⟩ := List.cons.inj h
        cases before with
        | nil =>
          obtain ⟨rfl, -⟩ := List.cons.inj hrest
          exact .value o hplain rfl
        | cons second before => exact (ih (List.cons.inj hrest).2).append_left [_, second]

section

variable {items : List Item} {before after : List String} {word : String}

/-- Two dashes alone are no word of an item. -/
theorem terminator_not_mem_wordsOf : "--" ∉ wordsOf items := by
  intro h
  obtain ⟨before, after, hwords⟩ := List.append_of_mem h
  cases place_of_wordsOf_eq hwords with
  | first i rest hform _ => cases i <;> exact absurd hform nofun
  | value o hplain _ =>
    rw [← ofChars_eq_plain_iff_isPlain] at hplain
    exact absurd hplain nofun

/-- No word of an item asks for anything. -/
theorem not_isAskedBy_of_mem_wordsOf (h : word ∈ wordsOf items) (r : Request) :
    ¬ r.IsAskedBy word := by
  rw [Request.isAskedBy_iff]
  obtain ⟨before, after, hwords⟩ := List.append_of_mem h
  cases place_of_wordsOf_eq hwords with
  | first i rest hform _ =>
    rw [hform]
    rintro (hlong | hshort)
    · cases i with
      | attached => exact absurd (Word.long.inj hlong).2 nofun
      | separate o => exact absurd (Word.long.inj hlong).1 (by cases o <;> cases r <;> decide)
      | verbose => exact absurd (Word.long.inj hlong).1 (by cases r <;> decide)
    · cases i <;> exact absurd hshort nofun
  | value o hplain _ =>
    rw [ofChars_eq_plain_iff_isPlain.2 hplain]
    rintro (hlong | hshort)
    · exact absurd hlong nofun
    · exact absurd hshort nofun

/-- An option that waits for its value has it in the next word. -/
theorem value_of_wordsOf_eq {o : PathOption}
    (h : wordsOf items = before ++ (Opt.path o).word :: after) :
    ∃ value rest, after = value :: rest ∧ value ≠ "" ∧ IsPlain value := by
  have hword := (Opt.path o).ofChars_word
  cases place_of_wordsOf_eq h with
  | first i rest hform hafter =>
    rw [hword] at hform
    cases i with
    | attached => exact absurd (Word.long.inj hform).2 nofun
    | separate o' value hne hplain =>
      exact ⟨value, wordsOf rest, (List.cons.inj hafter).2, hne, hplain⟩
    | verbose => exact absurd (Word.long.inj hform).1 (by cases o <;> decide)
  | value _ hplain _ =>
    rw [← ofChars_eq_plain_iff_isPlain, hword] at hplain
    exact absurd hplain nofun

/-- A value in the word of its option is not empty. -/
theorem emptyValue_not_mem_wordsOf {o : PathOption} :
    (Opt.path o).word ++ "=" ∉ wordsOf items := by
  intro h
  have hword : Word.ofChars ((Opt.path o).word ++ "=").toList
      = .long (Opt.path o).name.toList (some "") := by
    have hattached := (Given.path o "").ofChars_word
    rw [show (Given.path o "").word = (Opt.path o).word ++ "=" from String.append_empty] at hattached
    exact hattached
  obtain ⟨before, after, hwords⟩ := List.append_of_mem h
  cases place_of_wordsOf_eq hwords with
  | first i rest hform _ =>
    rw [hword] at hform
    cases i with
    | attached o' value hne =>
      exact hne (Option.some.inj (Word.long.inj hform).2).symm
    | separate => exact absurd (Word.long.inj hform).2 nofun
    | verbose => exact absurd (Word.long.inj hform).2 nofun
  | value _ hplain _ =>
    rw [← ofChars_eq_plain_iff_isPlain, hword] at hplain
    exact absurd hplain nofun

/-- A word that is no value names an option. -/
theorem named?_of_mem_wordsOf (h : word ∈ wordsOf items) (hdash : ¬ IsPlain word) :
    named? word ≠ none := by
  obtain ⟨before, after, hwords⟩ := List.append_of_mem h
  cases place_of_wordsOf_eq hwords with
  | first i rest hform _ =>
    have hname : named? word = some i.option := by
      unfold named?
      rw [hform]
      cases i with
      | attached o => exact (Opt.path o).ofName?_name
      | separate o => exact (Opt.path o).ofName?_name
      | verbose => exact Opt.verbose.ofName?_name
    rw [hname]
    exact nofun
  | value _ hplain _ => exact absurd hplain hdash

/-- A plain word is the value of the option right before it. -/
theorem option_of_wordsOf_eq (h : wordsOf items = before ++ word :: after)
    (hplain : IsPlain word) : ∃ o : PathOption, before.getLast? = some (Opt.path o).word := by
  cases place_of_wordsOf_eq h with
  | first i rest hform _ =>
    rw [ofChars_eq_plain_iff_isPlain.2 hplain] at hform
    cases i <;> exact absurd hform nofun
  | value o _ hbefore => exact ⟨o, hbefore⟩

end

/-! ### What spoils a request -/

/-- What cannot stand before a word that asks. -/
inductive Spoiled (p : List String) : Prop
  /-- The options have ended. -/
  | ended (h : "--" ∈ p)
  /-- A path option still waits for its value. -/
  | waiting {before after : List String} (o : PathOption)
    (h : p = before ++ ("--" ++ o.name) :: after)
    (hnext : ∀ value, after.head? = some value → ¬ IsPlain value)
  /-- An option is named twice. -/
  | repeated (h : ¬ (p.filterMap named?).Nodup)
  /-- The value of a path option is empty, in the word of the option or in the next one. -/
  | emptyValue {before after : List String} (o : PathOption)
    (h : "--" ++ o.name ++ "=" ∈ p ∨ p = before ++ ("--" ++ o.name) :: "" :: after)
  /-- A word that is no plain one names no option. -/
  | unknownOption {word : String} (h : word ∈ p) (hdash : ¬ IsPlain word)
    (hname : named? word = none)
  /-- A plain word does not come right behind a path option. -/
  | unknownWord {before after : List String} {word : String} (h : p = before ++ word :: after)
    (hplain : IsPlain word)
    (hvalue : ∀ o : PathOption, before.getLast? ≠ some ("--" ++ o.name))

/-- Complete words are not spoiled. -/
theorem not_spoiled_of_isComplete {p : List String} (h : IsComplete p) : ¬ Spoiled p := by
  obtain ⟨items, rfl, hdistinct⟩ := h
  intro hspoiled
  cases hspoiled with
  | ended hend => exact terminator_not_mem_wordsOf hend
  | waiting o hwords hnext =>
    obtain ⟨value, rest, rfl, -, hplain⟩ := value_of_wordsOf_eq hwords
    exact hnext value rfl hplain
  | repeated htwice =>
    rw [filterMap_named?_wordsOf] at htwice
    exact htwice hdistinct
  | emptyValue o hempty =>
    rcases hempty with hmem | hwords
    · exact emptyValue_not_mem_wordsOf hmem
    · obtain ⟨value, rest, hvalue, hne, -⟩ := value_of_wordsOf_eq hwords
      exact hne (List.cons.inj hvalue).1.symm
  | unknownOption hmem hdash hname => exact named?_of_mem_wordsOf hmem hdash hname
  | unknownWord hwords hplain hvalue =>
    obtain ⟨o, ho⟩ := option_of_wordsOf_eq hwords hplain
    exact hvalue o ho

/-! ### The first word that asks -/

/-- None of the words asks for anything. -/
def AsksNothing (words : List String) : Prop := ∀ w ∈ words, ∀ r : Request, ¬ r.IsAskedBy w

theorem asksNothing_of_isComplete {p : List String} (h : IsComplete p) : AsksNothing p := by
  obtain ⟨items, rfl, -⟩ := h
  intro w hw r
  exact not_isAskedBy_of_mem_wordsOf hw r

/-- What stands before the first word that asks is the same, however it is found. -/
theorem eq_of_asksNothing {p p' s s' : List String} {h h' : String} {r r' : Request}
    (heq : p ++ h :: s = p' ++ h' :: s') (hp : AsksNothing p) (hp' : AsksNothing p')
    (hasked : r.IsAskedBy h) (hasked' : r'.IsAskedBy h') : p = p' := by
  rcases List.append_eq_append_iff.1 heq with ⟨more, rfl, hmore⟩ | ⟨more, rfl, hmore⟩
  · cases more with
    | nil => exact (List.append_nil p).symm
    | cons w more =>
      obtain ⟨rfl, -⟩ := List.cons.inj hmore
      exact absurd hasked (hp' h (by simp) r)
  · cases more with
    | nil => exact List.append_nil p'
    | cons w more =>
      obtain ⟨rfl, -⟩ := List.cons.inj hmore
      exact absurd hasked' (hp h' (by simp) r')

/-- A command line in which a word asks is not accepted. -/
theorem parse_ne_ok_of_isAskedBy {words : List String} {h : String} {r : Request}
    (hmem : h ∈ words) (hasked : r.IsAskedBy h) (found : Matches) :
    parse .standard words ≠ .ok found := by
  intro hparse
  obtain ⟨items, terminated, rfl, -⟩ := parse_eq_ok_iff.1 hparse
  rcases List.mem_append.1 hmem with hitem | hend
  · exact not_isAskedBy_of_mem_wordsOf hitem r hasked
  · cases terminated with
    | false => exact absurd hend List.not_mem_nil
    | true =>
      obtain rfl : h = "--" := List.mem_singleton.1 hend
      rcases Request.isAskedBy_iff.1 hasked with hform | hform
      · exact absurd hform nofun
      · exact absurd hform nofun

/-- **The command lines that are answered** with the help or the version are those in which
a word asks for it behind complete items.  Where anything else stands before the first
word that asks, the command line is refused. -/
theorem request_granted_iff (words : List String) :
    (∀ r : Request, parse .standard words = .error r.stop ↔
      ∃ p h s, words = p ++ h :: s ∧ IsComplete p ∧ r.IsAskedBy h) ∧
    ∀ p h s, words = p ++ h :: s → AsksNothing p → (∃ r : Request, r.IsAskedBy h) →
      Spoiled p → ∃ stop, parse .standard words = .error stop ∧ stop.exitCode ≠ 0 := by
  refine ⟨fun r => parse_eq_error_request_iff, ?_⟩
  rintro p h s rfl hp ⟨r, hasked⟩ hspoiled
  rcases hparse : parse .standard (p ++ h :: s) with stop | found
  · refine ⟨stop, rfl, ?_⟩
    have hdenied (r' : Request) : stop ≠ r'.stop := by
      rintro rfl
      obtain ⟨p', h', s', heq, hcomplete, hasked'⟩ := parse_eq_error_request_iff.1 hparse
      obtain rfl := eq_of_asksNothing heq hp (asksNothing_of_isComplete hcomplete) hasked hasked'
      exact not_spoiled_of_isComplete hcomplete hspoiled
    rw [ne_eq, Stop.exitCode_eq_zero_iff]
    rintro (rfl | rfl)
    · exact hdenied .help rfl
    · exact hdenied .version rfl
  · exact absurd hparse (parse_ne_ok_of_isAskedBy (by simp) hasked found)

end CommandLine

end Docstrings

/-
Docstrings/Proofs/CommandLine/Steps.lean

What reading one word of a command line can do.

A word is read only while the options have not ended, and there are four things
that it can then do: end the options, make a path option wait for its value, give
an option, or be the value that one waits for.  `Advance` lists them, each with the
state that it leads to; all later arguments about whole command lines go through it.

An option that waits, and has its value by then, is given before the next one is
read.  So a word that names an option leads on only if that succeeds.

* `settled_give_eq_ok_iff`, `settled_flush_eq_ok_iff` — when options are given.
* `step_eq_ok_iff` — the steps that can be taken are those of `Advance`.
* `requirement_standard_eq_ok_iff` — what has to be given in the end.
-/
import Docstrings.CommandLine.Parser

namespace Docstrings

namespace CommandLine

/-! ### Results of steps in a row -/

theorem bind_eq_ok_iff {ε α β : Type} {x : Except ε α} {f : α → Except ε β} {b : β} :
    x.bind f = .ok b ↔ ∃ a, x = .ok a ∧ f a = .ok b := by
  rcases x with e | a
  · constructor
    · exact nofun
    · rintro ⟨a, ⟨⟩, -⟩
  · constructor
    · exact fun h => ⟨a, rfl, h⟩
    · rintro ⟨a', ⟨⟩, h⟩
      exact h

theorem map_eq_ok_iff {ε α β : Type} {x : Except ε α} {f : α → β} {b : β} :
    x.map f = .ok b ↔ ∃ a, x = .ok a ∧ f a = b := by
  rcases x with e | a <;> simp [Except.map]

/-! ### Words of options -/

/-- A word that is no option: it does not start with a dash, or is just a dash. -/
def IsPlain (word : String) : Prop := word = "-" ∨ word.toList.head? ≠ some '-'

theorem ofChars_eq_plain_iff_isPlain {word : String} :
    Word.ofChars word.toList = .plain ↔ IsPlain word := by
  have hdash : word.toList = ['-'] ↔ word = "-" := by
    rw [← String.toList_inj]
    rfl
  rw [Word.ofChars_eq_plain_iff, hdash]
  rfl

/-- The word for an option without a value. -/
def Opt.word (o : Opt) : String := "--" ++ o.name

/-- The value that an option is given with. -/
def Given.value? : Given → Option String
  | path _ value => some value
  | verbose => none

/-- The one word that gives an option together with its value. -/
def Given.word : Given → String
  | path o value => (Opt.path o).word ++ "=" ++ value
  | verbose => Opt.verbose.word

theorem Opt.toList_word (o : Opt) : o.word.toList = '-' :: '-' :: o.name.toList := by
  simp [word]

theorem Given.toList_word (g : Given) :
    g.word.toList = '-' :: '-' ::
      (g.option.name.toList ++ g.value?.elim [] fun value => '=' :: value.toList) := by
  cases g with
  | path o value => simp [word, Opt.word, option, value?]
  | verbose => simp [word, Opt.word, option, value?]

theorem Opt.name_ne_nil (o : Opt) : o.name.toList ≠ [] := by
  rcases o with (_ | _) | _ | _ | _ <;> decide

theorem Opt.equals_not_mem_name (o : Opt) : '=' ∉ o.name.toList := by
  rcases o with (_ | _) | _ | _ | _ <;> decide

theorem Opt.ofChars_word (o : Opt) : Word.ofChars o.word.toList = .long o.name.toList none := by
  rw [o.toList_word]
  exact Word.ofChars_long o.name_ne_nil o.equals_not_mem_name

theorem Given.ofChars_word (g : Given) :
    Word.ofChars g.word.toList = .long g.option.name.toList g.value? := by
  cases g with
  | path o value =>
    rw [toList_word]
    exact (Word.ofChars_attached value.toList (Opt.path o).equals_not_mem_name).trans
      (by simp [option, value?])
  | verbose => exact Opt.verbose.ofChars_word

/-! ### Giving options -/

namespace State

variable {s s' : State}

@[simp] theorem seen_append (s : State) (g : Given) :
    ({ s with given := s.given ++ [g] } : State).seen = s.seen ++ [g.option] := by
  simp [seen]

/-- An option can be given once, and with a value that is not empty. -/
theorem settled_give_eq_ok_iff {g : Given} :
    settled (s.give g) = .ok s' ↔
      g.option ∉ s.seen ∧ g.error? = none ∧ s' = { s with given := s.given ++ [g] } := by
  unfold give
  by_cases hseen : g.option ∈ s.seen
  · simp [hseen, settled]
  · rcases herror : g.error? with - | e
    · simp [hseen, settled, eq_comm]
    · simp [hseen, settled]

/-- The option that waits, if there is one, can be given if it has its value. -/
theorem settled_flush_eq_ok_iff :
    settled s.flush = .ok s' ↔
      (s.pending? = none ∧ s' = s) ∨
      ∃ o value, s.pending? = some ⟨o, some value⟩ ∧ Opt.path o ∉ s.seen ∧ value ≠ "" ∧
        s' = { s with given := s.given ++ [.path o value], pending? := none } := by
  unfold flush
  rcases hpending : s.pending? with - | ⟨o, - | value⟩
  · simp [settled, eq_comm]
  · simp [settled]
  · simp only []
    rw [settled_give_eq_ok_iff]
    constructor
    · rintro ⟨hseen, herror, rfl⟩
      exact .inr ⟨o, value, rfl, hseen, by simpa [Given.error?] using herror, rfl⟩
    · rintro (⟨h, -⟩ | ⟨o', value', h, hseen, hne, rfl⟩)
      · exact absurd h nofun
      · obtain ⟨rfl, rfl⟩ : o = o' ∧ value = value' := by simpa using h
        exact ⟨hseen, by simp [Given.error?, hne], rfl⟩

theorem terminated_of_settled_flush (h : settled s.flush = .ok s') :
    s'.terminated = s.terminated := by
  rcases settled_flush_eq_ok_iff.1 h with ⟨-, rfl⟩ | ⟨o, value, -, -, -, rfl⟩
  · rfl
  · rfl

/-- Where nothing waits, all is given already. -/
theorem settled_flush_of_pending?_none (h : s.pending? = none) : settled s.flush = .ok s :=
  settled_flush_eq_ok_iff.2 (.inl ⟨h, rfl⟩)

/-! ### Steps -/

/-- The steps that a word can make from a state, while the options have not ended. -/
inductive Advance (s : State) : String → State → Prop where
  /-- Two dashes alone end the options; the one that waits goes on waiting. -/
  | ends : Advance s "--" { s with terminated := true }
  /-- A path option without a value waits for it. -/
  | waits {s₀ : State} (o : PathOption) (hflush : settled s.flush = .ok s₀) :
      Advance s (Opt.path o).word { s₀ with pending? := some ⟨o, none⟩ }
  /-- An option that is all in one word is given. -/
  | gives {s₀ s' : State} (g : Given) (hflush : settled s.flush = .ok s₀)
      (hgive : settled (s₀.give g) = .ok s') : Advance s g.word s'
  /-- A plain word is the value that an option waits for. -/
  | fills {word : String} (o : PathOption) (hpending : s.pending? = some ⟨o, none⟩)
      (hplain : IsPlain word) : Advance s word { s with pending? := some ⟨o, some word⟩ }

/-- A known option leads on if it is a path option that waits for its value, or one
that is given. -/
theorem stepKnown_eq_ok_iff {o : Opt} {value? : Option String} :
    s.stepKnown o value? = .ok s' ↔
      ∃ s₀, settled s.flush = .ok s₀ ∧
        ((∃ p, o = .path p ∧ value? = none ∧ s' = { s₀ with pending? := some ⟨p, none⟩ }) ∨
          ∃ g : Given, g.option = o ∧ g.value? = value? ∧ settled (s₀.give g) = .ok s') := by
  constructor
  · intro h
    unfold stepKnown at h
    split at h
    · obtain ⟨s₀, hflush, rfl⟩ := map_eq_ok_iff.1 h
      exact ⟨s₀, hflush, .inl ⟨_, rfl, rfl, rfl⟩⟩
    · obtain ⟨s₀, hflush, hgive⟩ := bind_eq_ok_iff.1 h
      exact ⟨s₀, hflush, .inr ⟨_, rfl, rfl, hgive⟩⟩
    · obtain ⟨s₀, hflush, hgive⟩ := bind_eq_ok_iff.1 h
      exact ⟨s₀, hflush, .inr ⟨_, rfl, rfl, hgive⟩⟩
    · -- help is answered at once
      obtain ⟨s₀, -, hstop⟩ := bind_eq_ok_iff.1 h
      exact absurd hstop nofun
    · obtain ⟨s₀, -, hstop⟩ := bind_eq_ok_iff.1 h
      exact absurd hstop nofun
    · exact absurd h nofun
  · rintro ⟨s₀, hflush, ⟨p, rfl, rfl, rfl⟩ | ⟨g, rfl, rfl, hgive⟩⟩
    · exact map_eq_ok_iff.2 ⟨s₀, hflush, rfl⟩
    · cases g with
      | path p value => exact bind_eq_ok_iff.2 ⟨s₀, hflush, hgive⟩
      | verbose => exact bind_eq_ok_iff.2 ⟨s₀, hflush, hgive⟩

theorem stepShort_ne_ok (letter : Char) : s.stepShort letter ≠ .ok s' := by
  intro h
  unfold stepShort at h
  split at h
  · obtain ⟨s₀, -, hstop⟩ := bind_eq_ok_iff.1 h
    exact absurd hstop nofun
  · split at h
    · obtain ⟨s₀, -, hstop⟩ := bind_eq_ok_iff.1 h
      exact absurd hstop nofun
    · exact absurd h nofun

theorem stepPlain_eq_ok_iff {word : String} :
    s.stepPlain word = .ok s' ↔
      ∃ o, s.pending? = some ⟨o, none⟩ ∧ s' = { s with pending? := some ⟨o, some word⟩ } := by
  unfold stepPlain
  rcases s.pending? with - | ⟨o, - | value⟩
  · simp
  · simp [eq_comm]
  · simp

/-- A long option leads on if it is a known one, spelled out in the word. -/
theorem advance_of_stepLong {word : String} {name : List Char} {value? : Option String}
    (hform : Word.ofChars word.toList = .long name value?)
    (h : s.stepLong name value? = .ok s') : Advance s word s' := by
  have hword := Word.eq_of_ofChars_long hform
  unfold stepLong at h
  rcases hname : Opt.ofName? name with - | o
  · simp [hname] at h
  · rw [hname] at h
    obtain rfl := Opt.ofName?_eq_some_iff.1 hname
    obtain ⟨s₀, hflush, ⟨p, rfl, rfl, rfl⟩ | ⟨g, rfl, rfl, hgive⟩⟩ := stepKnown_eq_ok_iff.1 h
    · have : word = (Opt.path p).word := by
        rw [← String.toList_inj, hword, Opt.toList_word]
        simp
      exact this ▸ .waits p hflush
    · have : word = g.word := by
        rw [← String.toList_inj, hword, Given.toList_word]
      exact this ▸ .gives g hflush hgive

/-- **What a word can do.** -/
theorem step_eq_ok_iff {word : String} :
    s.step word = .ok s' ↔ s.terminated = false ∧ Advance s word s' := by
  constructor
  · intro h
    unfold step at h
    by_cases hend : s.terminated = true
    · simp [hend] at h
    · rw [if_neg hend] at h
      refine ⟨by simpa using hend, ?_⟩
      rcases hform : Word.ofChars word.toList with - | ⟨name, value?⟩ | letter | -
      · rw [hform] at h
        obtain rfl : word = "--" := String.toList_inj.1 (Word.ofChars_eq_terminator_iff.1 hform)
        obtain rfl := Except.ok.inj h
        exact .ends
      · rw [hform] at h
        exact advance_of_stepLong hform h
      · rw [hform] at h
        exact absurd h (stepShort_ne_ok letter)
      · rw [hform] at h
        obtain ⟨o, hpending, rfl⟩ := stepPlain_eq_ok_iff.1 h
        exact .fills o hpending (ofChars_eq_plain_iff_isPlain.1 hform)
  · rintro ⟨hend, hadvance⟩
    unfold step
    rw [if_neg (by simp [hend])]
    cases hadvance with
    | ends => rfl
    | waits o hflush =>
      rw [Opt.ofChars_word]
      show s.stepLong _ none = _
      rw [stepLong, Opt.ofName?_name]
      exact stepKnown_eq_ok_iff.2 ⟨_, hflush, .inl ⟨o, rfl, rfl, rfl⟩⟩
    | gives g hflush hgive =>
      rw [Given.ofChars_word]
      show s.stepLong _ g.value? = _
      rw [stepLong, Opt.ofName?_name]
      exact stepKnown_eq_ok_iff.2 ⟨_, hflush, .inr ⟨g, rfl, rfl, hgive⟩⟩
    | fills o hpending hplain =>
      rw [ofChars_eq_plain_iff_isPlain.2 hplain]
      exact stepPlain_eq_ok_iff.2 ⟨o, hpending, rfl⟩

/-! ### The end of a command line -/

theorem missing_eq_nil_iff : s.missing = [] ↔ ∀ o, Opt.path o ∈ s.seen := by
  unfold missing
  rw [List.filter_eq_nil_iff]
  constructor
  · intro h o
    simpa using h o o.mem_all
  · intro h o _
    simpa using h o

/-- The command that users get wants both paths. -/
theorem requirement_standard_eq_ok_iff :
    requirement .standard s = .ok s' ↔ (∀ o, Opt.path o ∈ s.seen) ∧ s' = s := by
  unfold requirement
  by_cases hmissing : s.missing = []
  · rw [if_neg fun h => h.2 hmissing]
    constructor
    · rintro ⟨⟩
      exact ⟨missing_eq_nil_iff.1 hmissing, rfl⟩
    · rintro ⟨-, rfl⟩
      rfl
  · rw [if_pos ⟨rfl, hmissing⟩]
    constructor
    · exact nofun
    · rintro ⟨hseen, -⟩
      exact absurd (missing_eq_nil_iff.2 hseen) hmissing

end State

/-! ### Words in a row -/

theorem readWords_cons_eq_ok_iff {s s' : State} {word : String} {words : List String} :
    readWords s (word :: words) = .ok s' ↔
      ∃ s₁, s.step word = .ok s₁ ∧ readWords s₁ words = .ok s' := by
  rw [readWords_cons, bind_eq_ok_iff]

theorem readWords_append_eq_ok_iff {s s' : State} {a b : List String} :
    readWords s (a ++ b) = .ok s' ↔ ∃ s₁, readWords s a = .ok s₁ ∧ readWords s₁ b = .ok s' := by
  rw [readWords_append, bind_eq_ok_iff]

end CommandLine

end Docstrings

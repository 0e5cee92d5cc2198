/-
Docstrings/Proofs/CommandLine/Stops.lean

What stops the reading of a command line.

The words are read in turn until one stops it, and what comes behind that word is not
looked at.  A word stops it either because the user asks for the help or the version with
it, or because it is wrong where it stands.  A request is granted only if the option that
waits, if there is one, can be given; so what stands before a request can spoil it, and
nothing that follows can.

That a required option is missing is no matter of a single word.  It is found out at the
end, and only if no word has stopped the reading.

* `step_eq_error_request_iff` — the words that are granted as a request.
* `step_eq_error_cases` — a word stops the reading as a request, or as wrong.
* `readWords_eq_error_iff` — the first word that stops decides.
* `parse_eq_bind` — reading a command line, in two stages.
-/
import Docstrings.Proofs.CommandLine.Steps

namespace Docstrings

namespace CommandLine

/-! ### Errors of steps in a row -/

theorem bind_eq_error_iff {ε α β : Type} {x : Except ε α} {f : α → Except ε β} {e : ε} :
    x.bind f = .error e ↔ x = .error e ∨ ∃ a, x = .ok a ∧ f a = .error e := by
  rcases x with e' | a <;> simp [Except.bind]

theorem map_eq_error_iff {ε α β : Type} {x : Except ε α} {f : α → β} {e : ε} :
    x.map f = .error e ↔ x = .error e := by
  rcases x with e' | a <;> simp [Except.map]

/-! ### Requests -/

/-- What a short option is spelled with. -/
theorem Word.isPrefix_of_ofChars_short {cs : List Char} {letter : Char}
    (h : Word.ofChars cs = .short letter) : ['-', letter] <+: cs := by
  unfold Word.ofChars at h
  split at h
  · exact absurd h nofun
  · exact absurd h nofun
  · rename_i rest _ _
    obtain rfl := Word.short.inj h
    exact ⟨rest, rfl⟩
  · exact absurd h nofun

/-- What a user can ask for in place of an extraction. -/
inductive Request where
  | help
  | version
  deriving DecidableEq

namespace Request

/-- The stop at which a request is granted. -/
def stop : Request → Stop
  | help => .help
  | version => .version

/-- The option that asks. -/
def option : Request → Opt
  | help => .help
  | version => .version

/-- The letter that asks after a single dash. -/
def letter : Request → Char
  | help => 'h'
  | version => 'V'

/-- The word asks: it is the option, or starts with a dash and the letter. -/
def IsAskedBy (r : Request) (word : String) : Prop :=
  word = "--" ++ r.option.name ∨ ['-', r.letter] <+: word.toList

theorem stop_injective {r r' : Request} (h : r.stop = r'.stop) : r = r' := by
  cases r <;> cases r' <;> simp_all [stop]

theorem stop_ne_usage (r : Request) (e : UsageError) : r.stop ≠ .usage e := by
  cases r <;> exact nofun

/-- A word asks by its form alone. -/
theorem isAskedBy_iff {r : Request} {word : String} :
    r.IsAskedBy word ↔
      Word.ofChars word.toList = .long r.option.name.toList none ∨
        Word.ofChars word.toList = .short r.letter := by
  have hlong : word = "--" ++ r.option.name ↔
      Word.ofChars word.toList = .long r.option.name.toList none := by
    constructor
    · rintro rfl
      exact r.option.ofChars_word
    · intro h
      rw [← String.toList_inj, Word.eq_of_ofChars_long h, String.toList_append]
      simp
  have hshort : ['-', r.letter] <+: word.toList ↔
      Word.ofChars word.toList = .short r.letter := by
    constructor
    · rintro ⟨rest, hrest⟩
      rw [← hrest]
      cases r <;> rfl
    · exact Word.isPrefix_of_ofChars_short
  rw [IsAskedBy, hlong, hshort]

end Request

/-! ### Words that are wrong -/

/-- The error is in the words that have been read, and not in what is still missing when
all are. -/
def UsageError.IsInWords : UsageError → Prop
  | optionsMissing .. => False
  | _ => True

/-- The words that have been read are wrong. -/
def Stop.IsRefusal (stop : Stop) : Prop := ∃ e, stop = .usage e ∧ e.IsInWords

theorem Request.not_isRefusal_stop (r : Request) : ¬ r.stop.IsRefusal := by
  rintro ⟨e, he, -⟩
  exact r.stop_ne_usage e he

/-- What goes wrong beside a state is a refusal if it is in the words. -/
theorem isRefusal_of_settled {r : State × Option UsageError} {stop : Stop}
    (hwords : ∀ e, r.2 = some e → e.IsInWords) (h : settled r = .error stop) :
    stop.IsRefusal := by
  unfold settled at h
  rcases hr : r.2 with - | e
  · rw [hr] at h
    exact absurd h nofun
  · rw [hr] at h
    exact ⟨e, (Except.error.inj h).symm, hwords e hr⟩

namespace State

variable {s : State} {stop : Stop}

theorem isRefusal_of_give {g : Given} (h : settled (s.give g) = .error stop) :
    stop.IsRefusal := by
  refine isRefusal_of_settled (fun e he => ?_) h
  unfold give at he
  split at he
  · obtain rfl := Option.some.inj he
    exact trivial
  · cases g with
    | path o value =>
      have herror : (if value = "" then some (UsageError.valueMissing o) else none) = some e := he
      split at herror
      · obtain rfl := Option.some.inj herror
        exact trivial
      · exact absurd herror nofun
    | verbose => exact absurd he nofun

theorem isRefusal_of_flush (h : settled s.flush = .error stop) : stop.IsRefusal := by
  unfold flush at h
  rcases hpending : s.pending? with - | ⟨o, - | value⟩
  · rw [hpending] at h
    exact absurd h nofun
  · rw [hpending] at h
    refine isRefusal_of_settled (fun e he => ?_) h
    obtain rfl := Option.some.inj he
    exact trivial
  · rw [hpending] at h
    exact isRefusal_of_give h

/-- A known option that asks for nothing stops the reading only if something is wrong. -/
theorem isRefusal_of_stepKnown {o : Opt} {value? : Option String}
    (hasks : ∀ r : Request, o = r.option → value? ≠ none)
    (h : s.stepKnown o value? = .error stop) : stop.IsRefusal := by
  unfold stepKnown at h
  split at h
  · exact isRefusal_of_flush (map_eq_error_iff.1 h)
  · rcases bind_eq_error_iff.1 h with hflush | ⟨s₀, -, hgive⟩
    · exact isRefusal_of_flush hflush
    · exact isRefusal_of_give hgive
  · rcases bind_eq_error_iff.1 h with hflush | ⟨s₀, -, hgive⟩
    · exact isRefusal_of_flush hflush
    · exact isRefusal_of_give hgive
  · exact absurd rfl (hasks .help rfl)
  · exact absurd rfl (hasks .version rfl)
  · exact ⟨_, (Except.error.inj h).symm, trivial⟩

theorem isRefusal_of_stepShort {letter : Char} (hasks : ∀ r : Request, letter ≠ r.letter)
    (h : s.stepShort letter = .error stop) : stop.IsRefusal := by
  have hhelp : letter ≠ 'h' := hasks .help
  have hversion : letter ≠ 'V' := hasks .version
  unfold stepShort at h
  rw [if_neg hhelp, if_neg hversion] at h
  exact ⟨_, (Except.error.inj h).symm, trivial⟩

/-- A word that asks for nothing stops the reading only if something is wrong. -/
theorem isRefusal_of_step {word : String} (hasks : ∀ r : Request, ¬ r.IsAskedBy word)
    (h : s.step word = .error stop) : stop.IsRefusal := by
  have hform (r : Request) := mt Request.isAskedBy_iff.2 (hasks r)
  unfold step at h
  by_cases hend : s.terminated = true
  · rw [if_pos hend] at h
    exact ⟨_, (Except.error.inj h).symm, trivial⟩
  rw [if_neg hend] at h
  rcases hword : Word.ofChars word.toList with - | ⟨name, value?⟩ | letter | -
  · rw [hword] at h
    exact absurd h nofun
  · rw [hword] at h
    have hlong : s.stepLong name value? = .error stop := h
    unfold stepLong at hlong
    rcases hname : Opt.ofName? name with - | o
    · rw [hname] at hlong
      exact ⟨_, (Except.error.inj hlong).symm, trivial⟩
    · rw [hname] at hlong
      obtain rfl := Opt.ofName?_eq_some_iff.1 hname
      refine isRefusal_of_stepKnown ?_ hlong
      rintro r rfl rfl
      exact hform r (.inl hword)
  · rw [hword] at h
    refine isRefusal_of_stepShort ?_ h
    rintro r rfl
    exact hform r (.inr hword)
  · rw [hword] at h
    have hplain : s.stepPlain word = .error stop := h
    unfold stepPlain at hplain
    split at hplain
    · exact absurd hplain nofun
    · exact ⟨_, (Except.error.inj hplain).symm, trivial⟩

/-! ### Words that ask -/

theorem stepKnown_request (s : State) (r : Request) :
    s.stepKnown r.option none = (settled s.flush).bind fun _ => .error r.stop := by
  cases r <;> rfl

/-- A word that asks is granted its request once the option that waits is given. -/
theorem step_of_isAskedBy (hrunning : s.terminated = false) {r : Request} {word : String}
    (h : r.IsAskedBy word) :
    s.step word = (settled s.flush).bind fun _ => .error r.stop := by
  rw [← stepKnown_request]
  unfold step
  rw [if_neg (by simp [hrunning])]
  rcases Request.isAskedBy_iff.1 h with hlong | hshort
  · rw [hlong]
    show s.stepLong r.option.name.toList none = s.stepKnown r.option none
    rw [stepLong, Opt.ofName?_name]
  · rw [hshort]
    cases r <;> rfl

/-- A word stops the reading because something is wrong, or as a request that is granted. -/
theorem step_eq_error_cases {word : String} (h : s.step word = .error stop) :
    stop.IsRefusal ∨ ∃ r : Request, stop = r.stop ∧ s.terminated = false ∧
      (∃ s₀, settled s.flush = .ok s₀) ∧ r.IsAskedBy word := by
  by_cases hasks : ∃ r : Request, r.IsAskedBy word
  · obtain ⟨r, hasked⟩ := hasks
    rcases hend : s.terminated with - | -
    · rw [step_of_isAskedBy hend hasked] at h
      rcases bind_eq_error_iff.1 h with hflush | ⟨s₀, hflush, hstop⟩
      · exact .inl (isRefusal_of_flush hflush)
      · exact .inr ⟨r, (Except.error.inj hstop).symm, rfl, ⟨s₀, hflush⟩, hasked⟩
    · -- behind the end of the options nothing is asked for
      unfold step at h
      rw [if_pos hend] at h
      exact .inl ⟨_, (Except.error.inj h).symm, trivial⟩
  · exact .inl (isRefusal_of_step (not_exists.1 hasks) h)

/-- **The words that are granted as a request.** -/
theorem step_eq_error_request_iff {r : Request} {word : String} :
    s.step word = .error r.stop ↔
      s.terminated = false ∧ (∃ s₀, settled s.flush = .ok s₀) ∧ r.IsAskedBy word := by
  constructor
  · intro h
    rcases step_eq_error_cases h with hrefusal | ⟨r', hstop, hrunning, hflush, hasked⟩
    · exact absurd hrefusal r.not_isRefusal_stop
    · obtain rfl := Request.stop_injective hstop
      exact ⟨hrunning, hflush, hasked⟩
  · rintro ⟨hrunning, ⟨s₀, hflush⟩, hasked⟩
    rw [step_of_isAskedBy hrunning hasked]
    exact bind_eq_error_iff.2 (.inr ⟨s₀, hflush, rfl⟩)

end State

/-! ### All words -/

/-- The first word that stops the reading decides. -/
theorem readWords_eq_error_iff {s : State} {words : List String} {stop : Stop} :
    readWords s words = .error stop ↔
      ∃ before word after s', words = before ++ word :: after ∧
        readWords s before = .ok s' ∧ s'.step word = .error stop := by
  constructor
  · intro h
    induction words generalizing s with
    | nil => exact absurd h nofun
    | cons word words ih =>
      rw [readWords_cons] at h
      rcases bind_eq_error_iff.1 h with hstep | ⟨s₁, hstep, hrest⟩
      · exact ⟨[], word, words, s, rfl, rfl, hstep⟩
      · obtain ⟨before, word', after, s', rfl, hread, hstop⟩ := ih hrest
        exact ⟨word :: before, word', after, s', rfl,
          readWords_cons_eq_ok_iff.2 ⟨s₁, hstep, hread⟩, hstop⟩
  · rintro ⟨before, word, after, s', rfl, hread, hstop⟩
    rw [readWords_append, hread]
    show readWords s' (word :: after) = .error stop
    rw [readWords_cons, hstop]
    rfl

/-- What has been read when the words are read and the option that waits at the end is
given.  The kind of the command has no part in it. -/
def readAll (words : List String) : Except Stop State :=
  (readWords .initial words).bind fun s => settled s.flush

/-- Only what is missing can be wrong at the very end. -/
theorem State.requirement_eq_error_iff {cmd : Command} {s : State} {stop : Stop} :
    s.requirement cmd = .error stop ↔
      cmd.pathsRequired = true ∧ s.missing ≠ [] ∧
        stop = .usage (.optionsMissing s.missing s.seen) := by
  unfold requirement
  by_cases h : cmd.pathsRequired = true ∧ s.missing ≠ []
  · rw [if_pos h]
    constructor
    · intro hstop
      exact ⟨h.1, h.2, (Except.error.inj hstop).symm⟩
    · rintro ⟨-, -, rfl⟩
      rfl
  · rw [if_neg h]
    constructor
    · exact nofun
    · rintro ⟨hrequired, hmissing, -⟩
      exact absurd ⟨hrequired, hmissing⟩ h

/-- A command line is read, and then what is missing is looked for. -/
theorem parse_eq_bind (cmd : Command) (words : List String) :
    parse cmd words
      = (readAll words).bind fun s => (s.requirement cmd).map fun s => .ofGiven s.given := by
  unfold parse readAll State.finish
  rcases readWords .initial words with stop | s
  · rfl
  · show ((settled s.flush).bind (State.requirement cmd)).map _ = (settled s.flush).bind _
    rcases settled s.flush with stop | s'
    · rfl
    · rfl

theorem readAll_eq_error_cases {words : List String} {stop : Stop}
    (h : readAll words = .error stop) : stop.IsRefusal ∨ ∃ r : Request, stop = r.stop := by
  rcases bind_eq_error_iff.1 h with hread | ⟨s, -, hflush⟩
  · obtain ⟨before, word, after, s, -, -, hstep⟩ := readWords_eq_error_iff.1 hread
    rcases State.step_eq_error_cases hstep with hrefusal | ⟨r, hr, -⟩
    · exact .inl hrefusal
    · exact .inr ⟨r, hr⟩
  · exact .inl (State.isRefusal_of_flush hflush)

/-- A request is granted for the word that makes it, or not at all. -/
theorem readAll_eq_error_request_iff {r : Request} {words : List String} :
    readAll words = .error r.stop ↔
      ∃ before word after s, words = before ++ word :: after ∧
        readWords .initial before = .ok s ∧ s.step word = .error r.stop := by
  rw [← readWords_eq_error_iff]
  constructor
  · intro h
    rcases bind_eq_error_iff.1 h with hread | ⟨s, -, hflush⟩
    · exact hread
    · exact absurd (State.isRefusal_of_flush hflush) r.not_isRefusal_stop
  · intro h
    exact bind_eq_error_iff.2 (.inl h)

end CommandLine

end Docstrings

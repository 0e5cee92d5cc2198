/-
Docstrings/CommandLine/Word.lean

The words of a command line, by their form.

A word with two dashes in front is a long option, whose name ends at the first
equals sign and whose value, if there is such a sign, is all that follows it.  A
word with one dash and something after it is a short option; only its first
character counts.  Two dashes alone end the options.  Any other word is plain, a
single dash and the empty word among them.

* `ofChars_attached`, `ofChars_long` — the forms of a long option.
* `ofChars_eq_plain_iff` — which words are plain.
-/

namespace Docstrings

namespace CommandLine

/-- A word of the command line, by its form. -/
inductive Word where
  /-- Two dashes alone. -/
  | terminator
  /-- An option with two dashes, and the value after an equals sign. -/
  | long (name : List Char) (value? : Option String)
  /-- An option with one dash. -/
  | short (letter : Char)
  /-- Anything else. -/
  | plain
  deriving DecidableEq

namespace Word

/-- The value after the equals sign at the front of what follows a name. -/
def valueAfter? : List Char → Option String
  | [] => none
  | _ :: value => some (String.ofList value)

/-- The form of a word. -/
def ofChars : List Char → Word
  | ['-', '-'] => terminator
  | '-' :: '-' :: rest =>
    long (rest.takeWhile (· ≠ '=')) (valueAfter? (rest.dropWhile (· ≠ '=')))
  | '-' :: letter :: _ => short letter
  | _ => plain

theorem ofChars_dashes {rest : List Char} (h : rest ≠ []) :
    ofChars ('-' :: '-' :: rest)
      = long (rest.takeWhile (· ≠ '=')) (valueAfter? (rest.dropWhile (· ≠ '='))) := by
  cases rest with
  | nil => exact absurd rfl h
  | cons c cs => rfl

/-- A long option without a value. -/
theorem ofChars_long {name : List Char} (hne : name ≠ []) (h : '=' ∉ name) :
    ofChars ('-' :: '-' :: name) = long name none := by
  have hall : ∀ c ∈ name, decide (c ≠ '=') = true := fun c hc =>
    decide_eq_true fun hce => h (hce ▸ hc)
  have htake : (name ++ []).takeWhile (· ≠ '=') = name ++ [] :=
    List.takeWhile_append_of_pos hall
  have hdrop : (name ++ []).dropWhile (· ≠ '=') = [] := List.dropWhile_append_of_pos hall
  rw [List.append_nil] at htake hdrop
  rw [ofChars_dashes hne, htake, hdrop, valueAfter?]

/-- A long option with a value. -/
theorem ofChars_attached {name : List Char} (value : List Char) (h : '=' ∉ name) :
    ofChars ('-' :: '-' :: (name ++ '=' :: value)) = long name (some (String.ofList value)) := by
  have hall : ∀ c ∈ name, decide (c ≠ '=') = true := fun c hc =>
    decide_eq_true fun hce => h (hce ▸ hc)
  rw [ofChars_dashes (by simp), List.takeWhile_append_of_pos hall, List.dropWhile_append_of_pos hall]
  simp [valueAfter?]

/-- What follows a name is an equals sign with the value, or nothing. -/
theorem dropWhile_eq_elim_valueAfter? (cs : List Char) :
    cs.dropWhile (· ≠ '=')
      = (valueAfter? (cs.dropWhile (· ≠ '='))).elim [] fun value => '=' :: value.toList := by
  have hstop := List.head?_dropWhile_not (· ≠ '=') cs
  rcases hafter : cs.dropWhile (· ≠ '=') with - | ⟨c, value⟩
  · rfl
  · rw [hafter] at hstop
    obtain rfl : c = '=' := by simpa using hstop
    simp [valueAfter?]

/-- What a long option is spelled with: its name, and its value if it has one. -/
theorem eq_of_ofChars_long {cs name : List Char} {value? : Option String}
    (h : ofChars cs = long name value?) :
    cs = '-' :: '-' :: (name ++ value?.elim [] fun value => '=' :: value.toList) := by
  unfold ofChars at h
  split at h
  · exact absurd h nofun
  · rename_i rest _
    obtain ⟨rfl, rfl⟩ := Word.long.inj h
    rw [← dropWhile_eq_elim_valueAfter?, List.takeWhile_append_dropWhile]
  · exact absurd h nofun
  · exact absurd h nofun

/-- Only two dashes alone end the options. -/
theorem ofChars_eq_terminator_iff {cs : List Char} : ofChars cs = terminator ↔ cs = ['-', '-'] := by
  constructor
  · intro h
    unfold ofChars at h
    split at h
    · rfl
    · exact absurd h nofun
    · exact absurd h nofun
    · exact absurd h nofun
  · rintro rfl
    rfl

/-- Plain words are those without a dash in front, and the dash alone. -/
theorem ofChars_eq_plain_iff {cs : List Char} :
    ofChars cs = plain ↔ cs = ['-'] ∨ cs.head? ≠ some '-' := by
  unfold ofChars
  split
  · simp
  · simp
  · simp
  · rename_i h₁ h₂ h₃
    constructor
    · intro _
      rcases cs with - | ⟨c, - | ⟨d, rest⟩⟩
      · simp
      · by_cases hc : c = '-'
        · simp [hc]
        · simp [hc]
      · refine Or.inr fun hc => ?_
        obtain rfl : c = '-' := by simpa using hc
        exact h₃ d rest rfl
    · intro _
      rfl

end Word

end CommandLine

end Docstrings

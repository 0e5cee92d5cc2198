/-
Docstrings/Log/Directive.lean

Directives: settings that say which events of which parts of the program are
let through.

A setting is a list of pieces parted by commas; empty pieces do not count.  Each
piece is one of

    target=level      events of the sources whose name starts with `target`
    target=           the same, all of them
    level             events of all sources
    target            all events of the sources whose name starts with `target`

where a level is a name, in capitals or not, or its number.  A piece that does not
start with a letter, a digit or one of `-`, `:`, `_`, or that has no level where
it should, spoils the whole setting.

Blanks in front of a piece are passed over to find its start, but stay part of it:
such a piece is a target that starts with blanks, and spoils the setting if it has
an equals sign.

* `parse?_eq_none_iff` — one bad piece is enough to spoil a setting.
* `pieces_nil` — the empty setting has no pieces, and is a good one.
-/
import Docstrings.Log.Level
import Docstrings.Text.Alphanumeric
import Docstrings.Text.Blank

namespace Docstrings

namespace Log

/-! ### Levels in a setting -/

/-- The number that a numeral with an optional plus sign stands for. -/
def numeral? (cs : List Char) : Option Nat :=
  let digits := if cs.head? = some '+' then cs.drop 1 else cs
  if digits ≠ [] ∧ digits.all Char.isDigit then some (Nat.ofDigitChars 10 digits 0) else none

/-- The threshold that a text stands for. -/
def Threshold.ofText? (cs : List Char) : Option Threshold :=
  match numeral? cs with
  | some n => ofRank? n
  | none => ofName? cs

/-! ### Directives -/

/-- Which events are let through from the sources whose name starts with the
target. -/
structure Directive where
  target : List Char
  threshold : Threshold
  deriving DecidableEq

namespace Directive

/-- The threshold that lets everything through. -/
def everything : Threshold := .upTo .trace

/-- Whether a piece of a setting may start with the character. -/
def mayStart (c : Char) : Bool := Text.isAlphanumeric c || c = '-' || c = ':' || c = '_'

/-- The directive for a piece with an equals sign: what stands before and after
it. -/
def ofSides? (target level : List Char) : Option Directive :=
  if level = [] then some ⟨target, everything⟩
  else (Threshold.ofText? level).map fun t => ⟨target, t⟩

/-- The directive for a piece without an equals sign. -/
def ofWord (word : List Char) : Directive :=
  match Threshold.ofText? word with
  | some t => ⟨[], t⟩
  | none => ⟨word, everything⟩

/-- Whether a piece of a setting starts with a blank. -/
def isIndented (piece : List Char) : Bool := piece.head?.any Text.isBlank

/-- The directive that a piece of a setting spells, if it is a good one. -/
def ofPiece? (piece : List Char) : Option Directive :=
  if (Text.trimStart piece).head?.any mayStart then
    match piece.dropWhile (· ≠ '=') with
    | [] => some (ofWord piece)
    | _ :: level =>
      if isIndented piece then none else ofSides? (piece.takeWhile (· ≠ '=')) level
  else none

/-- The pieces of a setting. -/
def pieces (setting : List Char) : List (List Char) :=
  (setting.splitOn ',').filter (!·.isEmpty)

/-- The directives of a setting, if all its pieces are good ones. -/
def parse? (setting : String) : Option (List Directive) :=
  (pieces setting.toList).mapM ofPiece?

@[simp] theorem pieces_nil : pieces [] = [] := rfl

theorem mapM_eq_none_iff {α β : Type} {f : α → Option β} {xs : List α} :
    xs.mapM f = none ↔ ∃ x ∈ xs, f x = none := by
  induction xs with
  | nil => simp
  | cons x xs ih =>
    rw [List.mapM_cons]
    rcases hx : f x with - | y
    · simp [hx]
    · rcases hrest : xs.mapM f with - | ys
      · have := ih.1 hrest
        simp [hx, this]
      · have : ¬ ∃ x ∈ xs, f x = none := fun h => by simp [ih.2 h] at hrest
        simp_all

/-- One bad piece spoils a setting. -/
theorem parse?_eq_none_iff {setting : String} :
    parse? setting = none ↔ ∃ piece ∈ pieces setting.toList, ofPiece? piece = none :=
  mapM_eq_none_iff

end Directive

end Log

end Docstrings

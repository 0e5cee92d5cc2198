/-
Docstrings/Marker.lean

Markers: the two triple quotes that open and close a block.

A line counts as a marker line if one of the two stands anywhere in it, however
often and whatever is around it.  The two kinds are not told apart after that:
either closes what the other opened.

* `occursIn_iff` — the search finds exactly the parts of a line.
* `hasMarker_iff` — a line is a marker line if one of the markers is a part of it.
-/
import Docstrings.Text.Line

namespace Docstrings

/-! ### The markers -/

/-- The two kinds of marker. -/
inductive Marker where
  /-- Three double quotes. -/
  | double
  /-- Three single quotes. -/
  | single
  deriving DecidableEq

namespace Marker

/-- The markers, in the order in which a line is searched for them. -/
def all : List Marker := [double, single]

theorem mem_all (m : Marker) : m ∈ all := by
  cases m <;> simp [all]

/-- The quote that a marker repeats. -/
def quote : Marker → Char
  | double => '"'
  | single => '\''

/-- A marker is three of its quotes. -/
def text (m : Marker) : List Char := List.replicate 3 m.quote

end Marker

/-! ### Searching a line -/

/-- Whether the word stands somewhere in the line. -/
def occursIn (word : List Char) : Line → Bool
  | [] => word.isEmpty
  | c :: cs => word.isPrefixOf (c :: cs) || occursIn word cs

theorem occursIn_iff {word : List Char} {l : Line} : occursIn word l = true ↔ word <:+: l := by
  induction l with
  | nil => simp [occursIn]
  | cons c cs ih => simp [occursIn, ih, List.infix_cons_iff]

/-- Whether the line holds a marker. -/
def hasMarker (l : Line) : Bool := Marker.all.any fun m => occursIn m.text l

theorem hasMarker_iff {l : Line} : hasMarker l = true ↔ ∃ m : Marker, m.text <:+: l := by
  simp only [hasMarker, List.any_eq_true, occursIn_iff]
  exact ⟨fun ⟨m, _, h⟩ => ⟨m, h⟩, fun ⟨m, h⟩ => ⟨m, m.mem_all, h⟩⟩

@[simp] theorem hasMarker_nil : hasMarker [] = false := by decide

end Docstrings

/-
Docstrings/Text/Ranges.lean

Sets of characters given by a table of ranges of code points, both ends
included.  The tables of character properties are values of this type.

* `contains_iff` — what membership in a table says.
-/

namespace Docstrings

namespace Text

/-- A table of ranges of code points.  Each pair is the first and the last code
point of a range. -/
structure Ranges where
  bounds : List (Nat × Nat)

namespace Ranges

/-- Whether the character lies in one of the ranges. -/
def contains (rs : Ranges) (c : Char) : Bool :=
  rs.bounds.any fun r => r.1 ≤ c.toNat && c.toNat ≤ r.2

theorem contains_iff {rs : Ranges} {c : Char} :
    rs.contains c = true ↔ ∃ r ∈ rs.bounds, r.1 ≤ c.toNat ∧ c.toNat ≤ r.2 := by
  simp [contains]

/-- How many code points the ranges cover, if they do not overlap. -/
def size (rs : Ranges) : Nat :=
  rs.bounds.foldr (fun r total => r.2 + 1 - r.1 + total) 0

end Ranges

end Text

end Docstrings

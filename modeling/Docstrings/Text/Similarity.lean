/-
Docstrings/Text/Similarity.lean

How alike two words are, from 0 (nothing in common) to 1 (the same).

Two characters match if they are equal and not further apart than half of the
longer word less one.  Each character of the first word, from left to right,
takes the leftmost match that no earlier one took.  The measure is the mean of
three shares: of the first word that is matched, of the second word that is
matched, and of the matches that stand in the same order in both words, where two
matches out of order count as one fault.

Design.  `takeMatch` takes one match away from the second word, whose characters
carry a mark that says whether they are taken.  The measure is a floating-point
number, computed in the order in which the shares are named above, so that words
can be compared by it to the last bit.
-/

namespace Docstrings

namespace Text

/-- A character of the second word, and whether it is taken. -/
structure Letter where
  char : Char
  taken : Bool
  deriving DecidableEq

/-- Take the first free letter equal to `c` among those from `skip` on, of which
`count` may be looked at.  The letters after that, or nothing if there is no
such letter. -/
def takeMatch (c : Char) : (skip count : Nat) → List Letter → Option (List Letter)
  | _, _, [] => none
  | _, 0, _ => none
  | 0, count + 1, l :: ls =>
    if l.char = c ∧ l.taken = false then some ({ l with taken := true } :: ls)
    else (takeMatch c 0 count ls).map (l :: ·)
  | skip + 1, count + 1, l :: ls => (takeMatch c skip (count + 1) ls).map (l :: ·)

/-- Let the characters of the first word, of which the first stands at place `i`,
take their matches.  The characters that got one, and the letters after that. -/
def takeMatches (reach : Nat) : (i : Nat) → List Char → List Letter → List Char × List Letter
  | _, [], ls => ([], ls)
  | i, c :: cs, ls =>
    match takeMatch c (i - reach) (min i reach + reach + 1) ls with
    | none => takeMatches reach (i + 1) cs ls
    | some ls' =>
      let rest := takeMatches reach (i + 1) cs ls'
      (c :: rest.1, rest.2)

/-- How far apart matching characters of words of these lengths may stand. -/
def reach (m n : Nat) : Nat := max m n / 2 - 1

/-- How alike two words are. -/
def similarity (a b : List Char) : Float :=
  if a = [] ∧ b = [] then 1
  else
    let matched := takeMatches (reach a.length b.length) 0 a (b.map fun c => ⟨c, false⟩)
    let inFirst := matched.1
    let inSecond := (matched.2.filter Letter.taken).map Letter.char
    let count := inFirst.length
    let outOfOrder := ((inFirst.zip inSecond).filter fun p => p.1 ≠ p.2).length
    if count = 0 then 0
    else
      (count.toFloat / a.length.toFloat + count.toFloat / b.length.toFloat
        + (count - outOfOrder / 2).toFloat / count.toFloat) / 3

end Text

end Docstrings

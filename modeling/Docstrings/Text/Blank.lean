/-
Docstrings/Text/Blank.lean

Blank characters, and lines without their blank margins.

A character is blank if it has the Unicode property White_Space: 25 characters,
all of the Basic Multilingual Plane.  `trim` drops the blanks at both ends of a
line and keeps those inside.

* `isBlank_of_isWhitespace` — the blanks include the white space of the core
  library, which knows ASCII only.
-/
import Docstrings.Text.Ranges
import Docstrings.Text.Line

namespace Docstrings

namespace Text

/-! ### The property -/

/-- The code points of the Unicode property White_Space. -/
def blanks : Ranges where
  bounds :=
    [(0x0009, 0x000D), (0x0020, 0x0020), (0x0085, 0x0085), (0x00A0, 0x00A0),
     (0x1680, 0x1680), (0x2000, 0x200A), (0x2028, 0x2029), (0x202F, 0x202F),
     (0x205F, 0x205F), (0x3000, 0x3000)]

example : blanks.size = 25 := by decide

/-- Whether the character is blank. -/
def isBlank (c : Char) : Bool := blanks.contains c

@[simp] theorem isBlank_return : isBlank '\r' = true := by decide

theorem isBlank_of_isWhitespace {c : Char} (h : c.isWhitespace = true) : isBlank c = true := by
  simp only [Char.isWhitespace, Bool.or_eq_true, decide_eq_true_eq] at h
  rcases h with ((rfl | rfl) | rfl) | rfl <;> decide

/-! ### Trimming -/

/-- The line without the blanks at its start. -/
def trimStart (l : Line) : Line := l.dropWhile isBlank

/-- The line without the blanks at its end. -/
def trimEnd (l : Line) : Line := (l.reverse.dropWhile isBlank).reverse

/-- The line without the blanks at its two ends. -/
def trim (l : Line) : Line := trimEnd (trimStart l)

@[simp] theorem trim_nil : trim [] = [] := rfl

end Text

end Docstrings

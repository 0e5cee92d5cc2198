/-
Docstrings/Markdown/Report.lean

The report: the blocks of a scan as a Markdown text.  Each block gets a heading
with its number, counted from one, and its text between two code fences, with
an empty line after the heading and after the fence.

* `renderFrom_congr` — only the texts of the blocks count.
-/
import Docstrings.Block

namespace Docstrings

namespace Markdown

/-- The line that opens and closes a code block. -/
def fence : String := "```"

/-- The heading of the block with number `n`. -/
def heading (n : Nat) : String := "## Docstring " ++ toString n

/-- The part of the report for one text, with number `n`. -/
def sectionOf (n : Nat) (text : String) : String :=
  heading n ++ "\n\n" ++ fence ++ "\n" ++ text ++ "\n" ++ fence ++ "\n\n"

/-- The report of blocks of which the first has number `n`. -/
def renderFrom (n : Nat) : List Block → String
  | [] => ""
  | b :: bs => sectionOf n b.text ++ renderFrom (n + 1) bs

/-- The report. -/
def render (blocks : List Block) : String := renderFrom 1 blocks

/-- A report depends on the texts of the blocks alone. -/
theorem renderFrom_congr {n : Nat} {a b : List Block} (h : a.map Block.text = b.map Block.text) :
    renderFrom n a = renderFrom n b := by
  induction a generalizing n b with
  | nil =>
    obtain rfl : b = [] := by simpa using h.symm
    rfl
  | cons x a ih =>
    cases b with
    | nil => simp at h
    | cons y b =>
      obtain ⟨hxy, hab⟩ : x.text = y.text ∧ a.map Block.text = b.map Block.text := by simpa using h
      rw [renderFrom, renderFrom, hxy, ih hab]

end Markdown

end Docstrings

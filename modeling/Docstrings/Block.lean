/-
Docstrings/Block.lean

Blocks: what a scan finds.  A block has a text of several lines and the numbers
of the first and the last line of the source that it was taken from, counted
from one.
-/
import Docstrings.Text.Line

namespace Docstrings

/-- A block of text and where it was found. -/
structure Block where
  text : String
  /-- The number of the line that opened the block. -/
  startLine : Nat
  /-- The number of the line that closed it. -/
  endLine : Nat
  deriving DecidableEq

namespace Block

/-- The lines of the block's text. -/
def lines (b : Block) : List Line := Text.lines b.text.toList

/-- How many lines the block's text has. -/
def lineCount (b : Block) : Nat := b.lines.length

/-- The block that stands so many lines further down. -/
def shift (n : Nat) (b : Block) : Block :=
  { b with startLine := b.startLine + n, endLine := b.endLine + n }

end Block

end Docstrings

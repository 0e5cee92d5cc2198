/-
Docstrings/Text/Line.lean

Lines of text.  A text is a list of characters; its lines are what stands
between its line feeds, each less the one carriage return that may stand right
before the line feed.  A text that ends in a line feed has no empty last line.

Design.  Cutting goes in two steps: `pieces` cuts at every line feed (and always
yields one piece more than there are line feeds), `linesOfPieces` then drops the
carriage returns and an empty last piece.  `joined` is the way back.

* `pieces_joined`, `joined_pieces` — cutting at line feeds and joining with
  them undo each other on lines that hold no line feed.
* `lines_joined` — a joined list of lines is read back as it was, if no line
  ends in a carriage return and the last one is not empty.
-/

namespace Docstrings

/-- A line of text, without its line break. -/
abbrev Line := List Char

namespace Text

/-! ### Cutting at line feeds -/

/-- The pieces of a text between its line feeds, in order. -/
def pieces (text : List Char) : List Line := text.splitOn '\n'

/-- Lines set one after the other, with a line feed between neighbours. -/
def joined (ls : List Line) : List Char := ['\n'].intercalate ls

@[simp] theorem pieces_nil : pieces [] = [[]] := rfl

theorem pieces_ne_nil (text : List Char) : pieces text ≠ [] :=
  List.splitOn_ne_nil '\n' text

theorem joined_pieces (text : List Char) : joined (pieces text) = text :=
  List.intercalate_splitOn '\n'

theorem pieces_joined {ls : List Line} (hne : ls ≠ []) (h : ∀ l ∈ ls, '\n' ∉ l) :
    pieces (joined ls) = ls :=
  List.splitOn_intercalate '\n' h hne

@[simp] theorem joined_nil : joined [] = [] := rfl

@[simp] theorem joined_singleton (l : Line) : joined [l] = l := by
  simp [joined]

theorem joined_cons {ls : List Line} (l : Line) (h : ls ≠ []) :
    joined (l :: ls) = l ++ '\n' :: joined ls := by
  simp [joined, List.intercalate_cons_of_ne_nil h]

/-! ### Carriage returns and the last piece -/

/-- The line less one carriage return at its end, if there is one. -/
def dropReturn (l : Line) : Line :=
  if l.getLast? = some '\r' then l.dropLast else l

theorem dropReturn_of_getLast?_ne {l : Line} (h : l.getLast? ≠ some '\r') :
    dropReturn l = l := by
  simp [dropReturn, h]

@[simp] theorem dropReturn_concat_return (l : Line) : dropReturn (l ++ ['\r']) = l := by
  simp [dropReturn]

/-- The lines that the pieces of a text stand for.  Every piece but the last was
ended by a line feed; the last one counts only if there is something in it, and
keeps its carriage return. -/
def linesOfPieces : List Line → List Line
  | [] => []
  | [last] => if last = [] then [] else [last]
  | l :: next :: rest => dropReturn l :: linesOfPieces (next :: rest)

/-- The lines of a text. -/
def lines (text : List Char) : List Line := linesOfPieces (pieces text)

@[simp] theorem lines_nil : lines [] = [] := rfl

theorem linesOfPieces_eq_self {ls : List Line} (h : ∀ l ∈ ls, l.getLast? ≠ some '\r')
    (hlast : ls.getLast? ≠ some []) : linesOfPieces ls = ls := by
  induction ls with
  | nil => rfl
  | cons l rest ih =>
    cases rest with
    | nil =>
      have hl : l ≠ [] := by simpa using hlast
      simp [linesOfPieces, hl]
    | cons next rest =>
      have hrest := ih (fun m hm => h m (by simp [hm])) (by simpa using hlast)
      simp only [linesOfPieces, hrest, dropReturn_of_getLast?_ne (h l (by simp))]

/-- Joined lines are read back as they were. -/
theorem lines_joined {ls : List Line} (hfeed : ∀ l ∈ ls, '\n' ∉ l)
    (hreturn : ∀ l ∈ ls, l.getLast? ≠ some '\r') (hlast : ls.getLast? ≠ some []) :
    lines (joined ls) = ls := by
  by_cases hne : ls = []
  · subst hne
    rfl
  · rw [lines, pieces_joined hne hfeed, linesOfPieces_eq_self hreturn hlast]

end Text

end Docstrings

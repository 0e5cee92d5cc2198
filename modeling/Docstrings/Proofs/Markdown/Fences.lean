/-
Docstrings/Proofs/Markdown/Fences.lean

Reports as Markdown: which code blocks a reader sees.

A reader of Markdown takes the lines of a report one after the other.  Outside a code
block, a fence opens one; inside, the first line of three or more backticks closes it,
whoever wrote that line.  A heading is one only outside code blocks.

A report copies the texts between its fences as they are.  So a line of backticks in a
text closes the code block that was meant to show it: the reader sees the text up to
there (`shownLines`), and takes the rest of it for lines of the report.  If no text holds
such a line, every text is shown whole, and only then:

    read (report content) = ⟨partsFrom 1 blocks, none⟩
      ↔ no line of a block closes a fence

* `readFrom_sectionLines` — what a reader sees of a section, for any text.
* `readFrom_reportLines_eq_iff` — when a reader sees all texts whole.
* `read_report_eq_iff` — the same for the report of a scan.
* `read_report_fence_in_text` — a text that is not shown whole.
-/
import Mathlib.Data.List.TakeWhile
import Docstrings.Proofs.Markdown.Rescan

namespace Docstrings

open Text

namespace Markdown

/-! ### Lines as a reader takes them -/

/-- Whether the line closes a code block: three backticks or more, and nothing else. -/
def closesFence (l : Line) : Bool := decide (3 ≤ l.length) && l.all (· == '`')

/-- How many number signs the line starts with. -/
def headingLevel (l : Line) : Nat := (l.takeWhile (· == '#')).length

/-- Whether the line is a heading: one to six number signs, and a space if anything. -/
def isHeading (l : Line) : Bool :=
  decide (1 ≤ headingLevel l ∧ headingLevel l ≤ 6) &&
    (l.drop (headingLevel l)).head?.all (· == ' ')

theorem closesFence_fence : closesFence fence.toList = true := by decide

theorem isHeading_heading (n : Nat) : isHeading (heading n).toList = true := by
  rw [toList_heading]
  rfl

/-! ### Reading -/

/-- What a reader takes the lines for. -/
inductive Part where
  | heading (l : Line)
  /-- A code block and its lines. -/
  | code (ls : List Line)
  /-- Any other line that is not empty. -/
  | plain (l : Line)
  deriving DecidableEq

/-- What a reader sees. -/
structure Reading where
  parts : List Part
  /-- The lines of the code block that is still open at the end. -/
  unclosed : Option (List Line)
  deriving DecidableEq

/-- A reading with a part in front. -/
def Reading.cons (p : Part) (r : Reading) : Reading := { r with parts := p :: r.parts }

theorem Reading.cons_eq_iff {p q : Part} {r : Reading} {ps : List Part}
    {inside : Option (List Line)} :
    r.cons p = ⟨q :: ps, inside⟩ ↔ p = q ∧ r = ⟨ps, inside⟩ := by
  obtain ⟨parts, unclosed⟩ := r
  simp [Reading.cons, and_assoc]

/-- The reading of lines, inside a code block with some lines already or outside. -/
def readFrom : Option (List Line) → List Line → Reading
  | inside, [] => ⟨[], inside⟩
  | none, l :: ls =>
    if l = fence.toList then readFrom (some []) ls
    else if l = [] then readFrom none ls
    else (readFrom none ls).cons (if isHeading l then .heading l else .plain l)
  | some inside, l :: ls =>
    if closesFence l then (readFrom none ls).cons (.code inside)
    else readFrom (some (inside ++ [l])) ls

/-- The reading of a text. -/
def read (text : String) : Reading := readFrom none (lines text.toList)

theorem readFrom_fence (ls : List Line) :
    readFrom none (fence.toList :: ls) = readFrom (some []) ls := by
  rw [readFrom, if_pos rfl]

theorem readFrom_empty (ls : List Line) : readFrom none ([] :: ls) = readFrom none ls := by
  rw [readFrom, if_neg (by decide), if_pos rfl]

theorem readFrom_heading (n : Nat) (ls : List Line) :
    readFrom none ((heading n).toList :: ls)
      = (readFrom none ls).cons (.heading (heading n).toList) := by
  have hfence : (heading n).toList ≠ fence.toList := by
    intro h
    have hsign : '#' ∈ (heading n).toList := by simp [toList_heading]
    rw [h] at hsign
    exact absurd hsign (by decide)
  have hempty : (heading n).toList ≠ [] := by simp [toList_heading]
  rw [readFrom, if_neg hfence, if_neg hempty, if_pos (isHeading_heading n)]

/-- A code block ends at the first line that closes it, not at the one that was meant
to. -/
theorem readFrom_some_append (inside ls : List Line) {closing : Line}
    (h : closesFence closing = true) (rest : List Line) :
    readFrom (some inside) (ls ++ closing :: rest)
      = (readFrom none ((ls.dropWhile fun l => !closesFence l) ++ closing :: rest).tail).cons
          (.code (inside ++ ls.takeWhile fun l => !closesFence l)) := by
  induction ls generalizing inside with
  | nil => simp [readFrom, h]
  | cons l ls ih =>
    by_cases hl : closesFence l = true
    · simp [readFrom, hl]
    · simp [readFrom, hl, ih]

/-! ### Reading a report -/

/-- The lines of a text that a reader sees in its code block. -/
def shownLines (text : String) : List Line :=
  (pieces text.toList).takeWhile fun l => !closesFence l

/-- The lines that a reader finds behind the code block of a text. -/
def leftLines (text : String) : List Line :=
  (((pieces text.toList).dropWhile fun l => !closesFence l) ++ [fence.toList, []]).tail

/-- What a reader sees of a section, for any text. -/
theorem readFrom_sectionLines (n : Nat) (text : String) (rest : List Line) :
    readFrom none (sectionLines n text ++ rest)
      = ((readFrom none (leftLines text ++ rest)).cons (.code (shownLines text))).cons
          (.heading (heading n).toList) := by
  have hlines : sectionLines n text ++ rest
      = (heading n).toList :: [] :: fence.toList ::
          (pieces text.toList ++ fence.toList :: [] :: rest) := by
    simp [sectionLines]
  have hleft : leftLines text ++ rest
      = (((pieces text.toList).dropWhile fun l => !closesFence l) ++
          fence.toList :: [] :: rest).tail := by
    rw [leftLines, ← List.tail_append_of_ne_nil (by simp), List.append_assoc]
    rfl
  rw [hlines, hleft, readFrom_heading, readFrom_empty, readFrom_fence,
    readFrom_some_append _ _ closesFence_fence, List.nil_append, shownLines]

theorem shownLines_eq_iff {text : String} :
    shownLines text = pieces text.toList ↔ ∀ l ∈ pieces text.toList, closesFence l = false := by
  simp [shownLines, List.takeWhile_eq_self_iff]

/-- Behind a text that is shown whole, a reader finds an empty line. -/
theorem leftLines_of_shown {text : String}
    (h : ∀ l ∈ pieces text.toList, closesFence l = false) : leftLines text = [[]] := by
  have hnone : ((pieces text.toList).dropWhile fun l => !closesFence l) = [] :=
    List.dropWhile_eq_nil_iff.2 fun l hl => by simp [h l hl]
  rw [leftLines, hnone]
  rfl

/-- The headings and code blocks that blocks are meant to be shown as, if the first of them
has number `n`. -/
def partsFrom (n : Nat) : List Block → List Part
  | [] => []
  | b :: bs => .heading (heading n).toList :: .code b.lines :: partsFrom (n + 1) bs

/-- A reader sees every text in a code block of its own exactly if no line of any text
closes one. -/
theorem readFrom_reportLines_eq_iff {n : Nat} {bs : List Block} (h : ∀ b ∈ bs, IsWhole b.text) :
    readFrom none (reportLines n bs) = ⟨partsFrom n bs, none⟩ ↔
      ∀ b ∈ bs, ∀ l ∈ b.lines, closesFence l = false := by
  induction bs generalizing n with
  | nil => simp [reportLines, readFrom, partsFrom]
  | cons b bs ih =>
    have hrest : readFrom none (reportLines (n + 1) bs) = ⟨partsFrom (n + 1) bs, none⟩ ↔
        ∀ c ∈ bs, ∀ l ∈ c.lines, closesFence l = false :=
      ih fun c hc => h c (List.mem_cons_of_mem b hc)
    have hlines : b.lines = pieces b.text.toList := (h b (by simp)).lines_eq
    rw [reportLines, readFrom_sectionLines, partsFrom, Reading.cons_eq_iff, Reading.cons_eq_iff,
      List.forall_mem_cons, hlines]
    constructor
    · rintro ⟨-, hcode, hread⟩
      -- the text is shown whole, so the next section is read from its start
      have hshown : ∀ l ∈ pieces b.text.toList, closesFence l = false :=
        shownLines_eq_iff.1 (Part.code.inj hcode)
      rw [leftLines_of_shown hshown, List.singleton_append, readFrom_empty] at hread
      exact ⟨hshown, hrest.1 hread⟩
    · rintro ⟨hshown, hbs⟩
      refine ⟨rfl, congrArg Part.code (shownLines_eq_iff.2 hshown), ?_⟩
      rw [leftLines_of_shown hshown, List.singleton_append, readFrom_empty]
      exact hrest.2 hbs

/-- **When a report shows every block.**  A reader of the report sees, for each block in
turn, its heading and one code block with the lines of its text, and ends outside of any
code block, if and only if no line of a text closes a fence. -/
theorem read_report_eq_iff (content : String) :
    read (report content) = ⟨partsFrom 1 (scan content).blocks, none⟩ ↔
      ∀ b ∈ (scan content).blocks, ∀ l ∈ b.lines, closesFence l = false := by
  have hwhole : ∀ b ∈ (scan content).blocks, IsWhole b.text := fun _ => isWhole_of_mem_blocks
  rw [read, report, render, lines_renderFrom hwhole, readFrom_reportLines_eq_iff hwhole]

/-- A text with a fence in it is not shown whole: its code block ends at that line, the line
behind it is taken for plain text, and the fence of the report opens another block, which
is never closed. -/
theorem read_report_fence_in_text :
    read (report "\"\"\"\n```\n\"\"\"\n")
      = ⟨[.heading "## Docstring 1".toList, .code ["\"\"\"".toList], .plain "\"\"\"".toList],
          some [[]]⟩ ∧
    read (report "\"\"\"\n```\n\"\"\"\n")
      ≠ ⟨partsFrom 1 (scan "\"\"\"\n```\n\"\"\"\n").blocks, none⟩ := by
  decide

end Markdown

end Docstrings

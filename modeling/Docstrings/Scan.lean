/-
Docstrings/Scan.lean

The scan: which blocks a text holds.

Marker lines take turns.  The first one opens a block, the next one closes it,
the one after that opens another, and so on; the lines from the opening marker
line to the closing one, both included and each without its blank margins, are
the text of the block.  A block that is still open when the text ends is
dropped.

Design.  `scanFrom n o ls` scans the lines `ls`, of which the first has number
`n`, with the block `o` open (or none).  It is a recursion on the lines that
yields the blocks in source order together with the block left open, so a scan
can be taken up where another one stopped:

    scanFrom n o (a ++ b)
      = (scanFrom n o a).andThen (scanFrom (n + a.length) (scanFrom n o a).unclosed b)

which is `scanFrom_append`.

* `scanFrom_none_unmarked`, `scanFrom_some_unmarked` — lines without a marker open
  and close nothing.
* `scanFrom_shift` — line numbers count from wherever the scan starts.
-/
import Docstrings.Text.Blank
import Docstrings.Marker
import Docstrings.Block

namespace Docstrings

open Text

/-! ### Open blocks -/

/-- A block that has been opened and not yet closed. -/
structure Opening where
  /-- The number of the line that opened it. -/
  startLine : Nat
  /-- Its lines so far, the latest one first. -/
  newestFirst : List Line
  deriving DecidableEq

namespace Opening

/-- The block opened by a line. -/
def start (n : Nat) (l : Line) : Opening := ⟨n, [trim l]⟩

/-- One more line of the open block. -/
def push (o : Opening) (l : Line) : Opening := { o with newestFirst := trim l :: o.newestFirst }

/-- The lines of the open block, in source order. -/
def lines (o : Opening) : List Line := o.newestFirst.reverse

/-- How many lines the open block has. -/
def lineCount (o : Opening) : Nat := o.newestFirst.length

/-- The block that the line with number `n` closes. -/
def close (o : Opening) (n : Nat) (l : Line) : Block where
  text := String.ofList (joined (o.push l).lines)
  startLine := o.startLine
  endLine := n

/-- The open block that stands so many lines further down. -/
def shift (k : Nat) (o : Opening) : Opening := { o with startLine := o.startLine + k }

@[simp] theorem lines_start (n : Nat) (l : Line) : (start n l).lines = [trim l] := rfl

@[simp] theorem startLine_push (o : Opening) (l : Line) : (o.push l).startLine = o.startLine := rfl

@[simp] theorem lines_push (o : Opening) (l : Line) :
    (o.push l).lines = o.lines ++ [trim l] := by
  simp [lines, push]

end Opening

/-! ### Scanning -/

/-- The outcome of a scan. -/
structure Scan where
  /-- The blocks found, in source order. -/
  blocks : List Block
  /-- The block that was still open at the end. -/
  unclosed : Option Opening
  deriving DecidableEq

namespace Scan

/-- A scan with a block in front of those it found. -/
def cons (b : Block) (s : Scan) : Scan := { s with blocks := b :: s.blocks }

/-- Two scans, the second of which went on where the first one stopped. -/
def andThen (s t : Scan) : Scan := ⟨s.blocks ++ t.blocks, t.unclosed⟩

end Scan

/-- The scan of lines of which the first has number `n`, with a block open or
none. -/
def scanFrom (n : Nat) : Option Opening → List Line → Scan
  | o, [] => ⟨[], o⟩
  | none, l :: ls =>
    if hasMarker l then scanFrom (n + 1) (some (.start n l)) ls
    else scanFrom (n + 1) none ls
  | some o, l :: ls =>
    if hasMarker l then (scanFrom (n + 1) none ls).cons (o.close n l)
    else scanFrom (n + 1) (some (o.push l)) ls

/-- The scan of a whole text. -/
def scan (content : String) : Scan := scanFrom 1 none (lines content.toList)

/-! ### One line at a time -/

@[simp] theorem scanFrom_nil (n : Nat) (o : Option Opening) : scanFrom n o [] = ⟨[], o⟩ := by
  cases o <;> rfl

theorem scanFrom_opens {n : Nat} {l : Line} {ls : List Line} (h : hasMarker l = true) :
    scanFrom n none (l :: ls) = scanFrom (n + 1) (some (.start n l)) ls := by
  simp [scanFrom, h]

theorem scanFrom_skips {n : Nat} {l : Line} {ls : List Line} (h : hasMarker l = false) :
    scanFrom n none (l :: ls) = scanFrom (n + 1) none ls := by
  simp [scanFrom, h]

theorem scanFrom_closes {n : Nat} {o : Opening} {l : Line} {ls : List Line}
    (h : hasMarker l = true) :
    scanFrom n (some o) (l :: ls) = (scanFrom (n + 1) none ls).cons (o.close n l) := by
  simp [scanFrom, h]

theorem scanFrom_collects {n : Nat} {o : Opening} {l : Line} {ls : List Line}
    (h : hasMarker l = false) :
    scanFrom n (some o) (l :: ls) = scanFrom (n + 1) (some (o.push l)) ls := by
  simp [scanFrom, h]

/-! ### Whole stretches of lines -/

/-- A scan goes on where another one stopped. -/
theorem scanFrom_append (n : Nat) (o : Option Opening) (a b : List Line) :
    scanFrom n o (a ++ b)
      = (scanFrom n o a).andThen (scanFrom (n + a.length) (scanFrom n o a).unclosed b) := by
  induction a generalizing n o with
  | nil => simp [Scan.andThen]
  | cons l a ih =>
    rw [List.cons_append, List.length_cons, Nat.add_comm a.length, ← Nat.add_assoc]
    cases o with
    | none =>
      by_cases h : hasMarker l = true
      · rw [scanFrom_opens h, scanFrom_opens h, ih]
      · rw [Bool.not_eq_true] at h
        rw [scanFrom_skips h, scanFrom_skips h, ih]
    | some o =>
      by_cases h : hasMarker l = true
      · rw [scanFrom_closes h, scanFrom_closes h, ih]
        rfl
      · rw [Bool.not_eq_true] at h
        rw [scanFrom_collects h, scanFrom_collects h, ih]

/-- Lines without a marker open nothing. -/
theorem scanFrom_none_unmarked {n : Nat} {ls : List Line} (h : ∀ l ∈ ls, hasMarker l = false) :
    scanFrom n none ls = ⟨[], none⟩ := by
  induction ls generalizing n with
  | nil => rfl
  | cons l ls ih =>
    rw [scanFrom_skips (h l (by simp)), ih fun m hm => h m (by simp [hm])]

/-- Lines without a marker close nothing: all of them go into the open block. -/
theorem scanFrom_some_unmarked {n : Nat} {o : Opening} {ls : List Line}
    (h : ∀ l ∈ ls, hasMarker l = false) :
    scanFrom n (some o) ls = ⟨[], some (ls.foldl Opening.push o)⟩ := by
  induction ls generalizing n o with
  | nil => rfl
  | cons l ls ih =>
    rw [scanFrom_collects (h l (by simp)), ih fun m hm => h m (by simp [hm]), List.foldl_cons]

/-- Line numbers count from wherever the scan starts. -/
theorem scanFrom_shift (k n : Nat) (o : Option Opening) (ls : List Line) :
    scanFrom (n + k) (o.map (Opening.shift k)) ls
      = ⟨(scanFrom n o ls).blocks.map (Block.shift k),
          (scanFrom n o ls).unclosed.map (Opening.shift k)⟩ := by
  induction ls generalizing n o with
  | nil => simp
  | cons l ls ih =>
    have hnext : n + k + 1 = n + 1 + k := by omega
    cases o with
    | none =>
      by_cases h : hasMarker l = true
      · rw [Option.map_none, scanFrom_opens h, scanFrom_opens h, hnext]
        exact ih (n + 1) (some (.start n l))
      · rw [Bool.not_eq_true] at h
        rw [Option.map_none, scanFrom_skips h, scanFrom_skips h, hnext]
        exact ih (n + 1) none
    | some o =>
      by_cases h : hasMarker l = true
      · rw [Option.map_some, scanFrom_closes h, scanFrom_closes h, hnext]
        have hrest := ih (n + 1) none
        rw [Option.map_none] at hrest
        rw [hrest]
        rfl
      · rw [Bool.not_eq_true] at h
        rw [Option.map_some, scanFrom_collects h, scanFrom_collects h, hnext]
        exact ih (n + 1) (some (o.push l))

end Docstrings

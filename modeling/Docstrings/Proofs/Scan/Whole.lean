/-
Docstrings/Proofs/Scan/Whole.lean

Whole blocks: what the text of a scanned block looks like.

The lines of a whole block have no blank margins, the first and the last of them
hold a marker, and no line in between does.  The invariant of a scan is the same
property less the last line: an open block starts with a marker line, and no line
after that one holds a marker.

A whole block is read back line by line: none of its lines ends in a carriage
return, because that is a blank, and the last one is not empty, because it holds
a marker.

* `isWhole_of_mem_blocks` — every block of a scan is whole.
* `IsWhole.lines_eq` — the lines of a whole block are the pieces of its text.
-/
import Docstrings.Proofs.Scan.Margin
import Docstrings.Proofs.Text.Terminated
import Docstrings.Scan

namespace Docstrings

open Text

/-! ### Whole blocks -/

/-- The lines of a whole block. -/
structure WholeLines (ls : List Line) : Prop where
  marked : ∃ first inner last, ls = first :: (inner ++ [last]) ∧ hasMarker first = true ∧
    (∀ l ∈ inner, hasMarker l = false) ∧ hasMarker last = true
  trimmed : ∀ l ∈ ls, trim l = l
  unbroken : ∀ l ∈ ls, '\n' ∉ l

/-- A text whose pieces are the lines of a whole block. -/
def IsWhole (text : String) : Prop := WholeLines (pieces text.toList)

namespace WholeLines

variable {ls : List Line}

theorem ne_nil (h : WholeLines ls) : ls ≠ [] := by
  obtain ⟨first, inner, last, rfl, -⟩ := h.marked
  simp

theorem getLast?_ne_return (h : WholeLines ls) : ∀ l ∈ ls, l.getLast? ≠ some '\r' := by
  intro l hl hreturn
  rw [← h.trimmed l hl] at hreturn
  have hblank : isBlank '\r' = false := getLast?_trim hreturn
  simp at hblank

theorem getLast?_ne_empty (h : WholeLines ls) : ls.getLast? ≠ some [] := by
  obtain ⟨first, inner, last, rfl, -, -, hlast⟩ := h.marked
  intro hempty
  obtain rfl : last = [] := by simpa [List.getLast?_cons] using hempty
  simp at hlast

theorem map_trim (h : WholeLines ls) : ls.map trim = ls :=
  (List.map_congr_left h.trimmed).trans (List.map_id ls)

theorem pieces_joined_eq (h : WholeLines ls) : pieces (joined ls) = ls :=
  pieces_joined h.ne_nil h.unbroken

theorem lines_joined_eq (h : WholeLines ls) : lines (joined ls) = ls :=
  lines_joined h.unbroken h.getLast?_ne_return h.getLast?_ne_empty

theorem isWhole (h : WholeLines ls) : IsWhole (String.ofList (joined ls)) := by
  rw [IsWhole, String.toList_ofList, h.pieces_joined_eq]
  exact h

end WholeLines

/-- The lines of a whole block are the pieces of its text. -/
theorem IsWhole.lines_eq {text : String} (h : IsWhole text) :
    lines text.toList = pieces text.toList := by
  have hlines : lines (joined (pieces text.toList)) = pieces text.toList :=
    WholeLines.lines_joined_eq h
  rwa [joined_pieces] at hlines

/-! ### The invariant of a scan -/

/-- An open block starts with a marker line, and no line after that one holds a
marker. -/
structure Opening.IsSound (o : Opening) : Prop where
  marked : ∃ first inner, o.lines = first :: inner ∧ hasMarker first = true ∧
    ∀ l ∈ inner, hasMarker l = false
  trimmed : ∀ l ∈ o.lines, trim l = l
  unbroken : ∀ l ∈ o.lines, '\n' ∉ l

namespace Opening

theorem isSound_start (n : Nat) {l : Line} (hmarker : hasMarker l = true) (hfeed : '\n' ∉ l) :
    (start n l).IsSound where
  marked := ⟨trim l, [], rfl, by simpa using hmarker, by simp⟩
  trimmed := by simp
  unbroken := by simpa using feed_not_mem_trim hfeed

theorem forall_mem_lines_push {o : Opening} {p : Line → Prop} {l : Line}
    (ho : ∀ m ∈ o.lines, p m) (hl : p (trim l)) : ∀ m ∈ (o.push l).lines, p m := by
  intro m hm
  rw [lines_push] at hm
  rcases List.mem_append.1 hm with hm | hm
  · exact ho m hm
  · obtain rfl : m = trim l := by simpa using hm
    exact hl

theorem IsSound.push {o : Opening} (ho : o.IsSound) {l : Line} (hmarker : hasMarker l = false)
    (hfeed : '\n' ∉ l) : (o.push l).IsSound where
  marked := by
    obtain ⟨first, inner, hlines, hfirst, hinner⟩ := ho.marked
    refine ⟨first, inner ++ [trim l], by simp [hlines], hfirst, ?_⟩
    intro m hm
    rcases List.mem_append.1 hm with hm | hm
    · exact hinner m hm
    · obtain rfl : m = trim l := by simpa using hm
      simpa using hmarker
  trimmed := forall_mem_lines_push ho.trimmed (trim_trim l)
  unbroken := forall_mem_lines_push ho.unbroken (feed_not_mem_trim hfeed)

theorem IsSound.wholeLines_push {o : Opening} (ho : o.IsSound) {l : Line}
    (hmarker : hasMarker l = true) (hfeed : '\n' ∉ l) : WholeLines (o.push l).lines where
  marked := by
    obtain ⟨first, inner, hlines, hfirst, hinner⟩ := ho.marked
    exact ⟨first, inner, trim l, by simp [hlines], hfirst, hinner, by simpa using hmarker⟩
  trimmed := forall_mem_lines_push ho.trimmed (trim_trim l)
  unbroken := forall_mem_lines_push ho.unbroken (feed_not_mem_trim hfeed)

end Opening

/-- A scan that goes on with a sound block open, or none, finds whole blocks only. -/
theorem isWhole_of_mem_blocks_scanFrom {n : Nat} {o : Option Opening} {ls : List Line}
    (hls : ∀ l ∈ ls, '\n' ∉ l) (ho : ∀ p, o = some p → p.IsSound) :
    ∀ b ∈ (scanFrom n o ls).blocks, IsWhole b.text := by
  fun_induction scanFrom n o ls with
  | case1 n o => simp
  | case2 n l ls h ih =>
    -- the line opens a block, which is sound
    apply ih (fun m hm => hls m (List.mem_cons_of_mem l hm))
    rintro p ⟨⟩
    exact Opening.isSound_start n h (hls l (by simp))
  | case3 n l ls h ih =>
    -- the line belongs to no block
    exact ih (fun m hm => hls m (List.mem_cons_of_mem l hm)) (by simp)
  | case4 n o l ls h ih =>
    -- the line closes the open block, which is whole then
    have hsound : o.IsSound := ho o rfl
    intro b hb
    rcases List.mem_cons.1 hb with rfl | hb
    · exact (hsound.wholeLines_push h (hls l (by simp))).isWhole
    · exact ih (fun m hm => hls m (List.mem_cons_of_mem l hm)) (by simp) b hb
  | case5 n o l ls h ih =>
    -- the line goes into the open block, which stays sound
    have hsound : o.IsSound := ho o rfl
    apply ih (fun m hm => hls m (List.mem_cons_of_mem l hm))
    rintro p ⟨⟩
    exact hsound.push (by simpa using h) (hls l (by simp))

/-- Every block of a scan is whole. -/
theorem isWhole_of_mem_blocks {content : String} {b : Block} (h : b ∈ (scan content).blocks) :
    IsWhole b.text :=
  isWhole_of_mem_blocks_scanFrom (fun _ => feed_not_mem_of_mem_lines) (by simp) b h

/-! ### Scanning over whole blocks -/

theorem scanFrom_unmarked_append (n : Nat) {ls : List Line} (h : ∀ l ∈ ls, hasMarker l = false)
    (rest : List Line) :
    scanFrom n none (ls ++ rest) = scanFrom (n + ls.length) none rest := by
  rw [scanFrom_append, scanFrom_none_unmarked h]
  rfl

theorem Opening.lines_foldl_push (o : Opening) (ls : List Line) :
    (ls.foldl Opening.push o).lines = o.lines ++ ls.map trim := by
  induction ls generalizing o with
  | nil => simp
  | cons l ls ih => rw [List.foldl_cons, ih]; simp

theorem Opening.startLine_foldl_push (o : Opening) (ls : List Line) :
    (ls.foldl Opening.push o).startLine = o.startLine := by
  induction ls generalizing o with
  | nil => rfl
  | cons l ls ih => rw [List.foldl_cons, ih, startLine_push]

/-- The next marker line closes the open block, with all lines up to there. -/
theorem scanFrom_some_append_marked (n : Nat) (o : Opening) {inner : List Line} {last : Line}
    (hinner : ∀ l ∈ inner, hasMarker l = false) (hlast : hasMarker last = true)
    (rest : List Line) :
    scanFrom n (some o) (inner ++ last :: rest)
      = (scanFrom (n + inner.length + 1) none rest).cons
          ⟨String.ofList (joined (o.lines ++ (inner ++ [last]).map trim)), o.startLine,
            n + inner.length⟩ := by
  have hlines : ((inner.foldl Opening.push o).push last).lines
      = o.lines ++ (inner ++ [last]).map trim := by
    rw [Opening.lines_push, Opening.lines_foldl_push]
    simp
  have hclose : (inner.foldl Opening.push o).close (n + inner.length) last
      = ⟨String.ofList (joined (o.lines ++ (inner ++ [last]).map trim)), o.startLine,
          n + inner.length⟩ := by
    rw [Opening.close, hlines, Opening.startLine_foldl_push]
  rw [scanFrom_append, scanFrom_some_unmarked hinner, scanFrom_closes hlast, hclose]
  rfl

/-- A scan that meets the lines of a whole block finds that block and goes on behind
it. -/
theorem scanFrom_wholeLines_append (n : Nat) {ls : List Line} (h : WholeLines ls)
    (rest : List Line) :
    scanFrom n none (ls ++ rest)
      = (scanFrom (n + ls.length) none rest).cons
          ⟨String.ofList (joined ls), n, n + ls.length - 1⟩ := by
  obtain ⟨first, inner, last, hls, hfirst, hinner, hlast⟩ := h.marked
  -- the first line opens the block, and the last one is the next with a marker
  have hlines : (Opening.start n first).lines ++ (inner ++ [last]).map trim = ls := by
    rw [← h.map_trim, hls]
    simp
  have hend : n + 1 + inner.length = n + ls.length - 1 := by
    rw [hls]
    simp
    omega
  have hnext : n + 1 + inner.length + 1 = n + ls.length := by
    rw [hls]
    simp
    omega
  calc scanFrom n none (ls ++ rest)
      = scanFrom (n + 1) (some (.start n first)) (inner ++ last :: rest) := by
        rw [hls, List.cons_append, List.append_assoc, scanFrom_opens hfirst]
        rfl
    _ = (scanFrom (n + ls.length) none rest).cons
          ⟨String.ofList (joined ls), n, n + ls.length - 1⟩ := by
        rw [scanFrom_some_append_marked _ _ hinner hlast, hlines, hnext, hend]
        rfl

end Docstrings

/-
Docstrings/Proofs/Scan/Extent.lean

Where a block stands in the source, and what its lines are.

A block keeps the numbers of the two marker lines that opened and closed it, and a text.
The text alone need not say which lines it was joined from: joining and cutting are not
inverse in general, since an empty last line is lost and a carriage return at the end of
a line is eaten.  For the texts of a scan they are.  A scanned text is whole: its lines
are trimmed, so none of them ends in a carriage return, and the last one holds a marker,
so it is not empty.

    b.lines  =  the trimmed lines of the source from b.startLine to b.endLine

* `exists_of_mem_blocks` — a block stands between two marker lines.
* `lines_blockBetween` — its lines are those of the source.
* `lines_of_mem_blocks` — the numbers of a block and its lines belong together.
-/
import Docstrings.Proofs.Scan.Pairing
import Docstrings.Proofs.Scan.Whole

namespace Docstrings

open Text

/-! ### Lines by their numbers -/

section

variable {ls : List Line} {s e : Nat}

theorem length_linesBetween (hs : 1 ≤ s) (hse : s ≤ e) (he : e ≤ ls.length) :
    (linesBetween s e ls).length = e - s + 1 := by
  rw [linesBetween, List.length_drop, List.length_take]
  omega

/-- Line number `i` of the stretch, counted from zero, is that many lines behind the first
one. -/
theorem getElem?_linesBetween {i : Nat} (hs : 1 ≤ s) (hse : s ≤ e) (hi : i < e - s + 1) :
    (linesBetween s e ls)[i]? = ls[s - 1 + i]? := by
  have hlt : s - 1 + i < e := by omega
  rw [linesBetween, List.getElem?_drop, List.getElem?_take, if_pos hlt]

theorem mem_of_mem_linesBetween {l : Line} (h : l ∈ linesBetween s e ls) : l ∈ ls :=
  List.mem_of_mem_take (List.mem_of_mem_drop h)

end

/-! ### Between two marker lines -/

/-- A block stands between two marker lines. -/
theorem exists_of_mem_blocks {content : String} {b : Block} (h : b ∈ (scan content).blocks) :
    ∃ s e, s ∈ markerNumbersIn content ∧ e ∈ markerNumbersIn content ∧ s < e ∧
      b = blockBetween (lines content.toList) s e := by
  obtain ⟨i, hi⟩ := List.mem_iff_getElem?.1 h
  rw [scan_eq_pairUp] at hi
  -- the block is one of those that the numbers are paired up to
  have hlt : i < (markerNumbersIn content).length / 2 := by
    obtain ⟨hlt, -⟩ := List.getElem?_eq_some_iff.1 hi
    rwa [length_blocks_pairUp] at hlt
  obtain ⟨s, e, hs, he, hblock⟩ := getElem?_blocks_pairUp (lines content.toList) hlt
  refine ⟨s, e, List.mem_of_getElem? hs, List.mem_of_getElem? he, ?_,
    Option.some.inj (hi.symm.trans hblock)⟩
  -- and the numbers of a pair are neighbours
  have hsorted : (markerNumbersIn content).Pairwise (· < ·) :=
    pairwise_markerNumbersFrom 1 (lines content.toList)
  obtain ⟨hslt, rfl⟩ := List.getElem?_eq_some_iff.1 hs
  obtain ⟨helt, rfl⟩ := List.getElem?_eq_some_iff.1 he
  exact List.pairwise_iff_getElem.1 hsorted _ _ hslt helt (Nat.lt_succ_self _)

/-- The lines of a whole block between two lines are the trimmed lines of the source. -/
theorem lines_blockBetween {ls : List Line} {s e : Nat} (hne : linesBetween s e ls ≠ [])
    (hfeed : ∀ l ∈ ls, '\n' ∉ l) (hwhole : IsWhole (blockBetween ls s e).text) :
    (blockBetween ls s e).lines = (linesBetween s e ls).map trim := by
  have htrimmed : ∀ l ∈ (linesBetween s e ls).map trim, '\n' ∉ l := by
    intro l hl
    obtain ⟨m, hm, rfl⟩ := List.mem_map.1 hl
    exact feed_not_mem_trim (hfeed m (mem_of_mem_linesBetween hm))
  have hne' : (linesBetween s e ls).map trim ≠ [] := by simpa using hne
  calc (blockBetween ls s e).lines
      = pieces (blockBetween ls s e).text.toList := hwhole.lines_eq
    _ = pieces (joined ((linesBetween s e ls).map trim)) := by
      rw [blockBetween, String.toList_ofList]
    _ = (linesBetween s e ls).map trim := pieces_joined hne' htrimmed

/-! ### Blocks of a scan -/

/-- **The numbers of a block and its lines belong together.**  The text of a block that a
scan finds is read back line by line as the trimmed lines of the source from the one that
opened the block to the one that closed it; these are at least two, and the source has
them. -/
theorem lines_of_mem_blocks {content : String} {b : Block} (h : b ∈ (scan content).blocks) :
    b.lines = (linesBetween b.startLine b.endLine (lines content.toList)).map trim ∧
    (∀ i < b.lineCount, ∃ l, (lines content.toList)[b.startLine - 1 + i]? = some l ∧
      b.lines[i]? = some (trim l)) ∧
    b.lineCount = b.endLine - b.startLine + 1 ∧ 2 ≤ b.lineCount ∧
    1 ≤ b.startLine ∧ b.startLine < b.endLine ∧
    b.endLine ≤ (lines content.toList).length := by
  have hwhole : IsWhole b.text := isWhole_of_mem_blocks h
  obtain ⟨s, e, hs, he, hse, rfl⟩ := exists_of_mem_blocks h
  obtain ⟨hs1, -⟩ := le_and_le_of_mem_markerNumbers hs
  obtain ⟨-, hlast⟩ := le_and_le_of_mem_markerNumbers he
  have hlength := length_linesBetween hs1 (Nat.le_of_lt hse) hlast
  have hlines : (blockBetween (lines content.toList) s e).lines
      = (linesBetween s e (lines content.toList)).map trim := by
    refine lines_blockBetween ?_ (fun _ => feed_not_mem_of_mem_lines) hwhole
    exact List.ne_nil_of_length_pos (by omega)
  have hcount : (blockBetween (lines content.toList) s e).lineCount = e - s + 1 := by
    rw [Block.lineCount, hlines, List.length_map, hlength]
  refine ⟨hlines, fun i hi => ?_, hcount, by omega, hs1, hse, hlast⟩
  -- line `i` of the block stands `i` lines behind the one that opened it
  rw [hcount] at hi
  have hi' : s - 1 + i < (lines content.toList).length := by omega
  refine ⟨(lines content.toList)[s - 1 + i], List.getElem?_eq_getElem hi', ?_⟩
  rw [hlines, List.getElem?_map, getElem?_linesBetween hs1 (Nat.le_of_lt hse) hi,
    List.getElem?_eq_getElem hi']
  rfl

/-- A block with an empty line, a line that is empty but for its margins, and a carriage
return of which one stays in the line and one does not. -/
theorem lines_of_mem_blocks_margins :
    let content := "x\n\t''' a\r\n\n \u3000\nb\rc\r\r\n\"\"\""
    let b : Block := ⟨"''' a\n\n\nb\rc\n\"\"\"", 2, 6⟩
    b ∈ (scan content).blocks ∧ b.lineCount = 5 ∧
      b.lines = (linesBetween 2 6 (lines content.toList)).map trim := by
  intro content b
  have hmem : b ∈ (scan content).blocks := by decide
  obtain ⟨hlines, -, hcount, -⟩ := lines_of_mem_blocks hmem
  exact ⟨hmem, hcount, hlines⟩

end Docstrings

/-
Docstrings/Proofs/Scan/Composition.lean

The scan of two texts, one behind the other.

Let the first text `a` stop at the end of a line, so that the lines of `a` and `b`
together are the lines of `a` followed by those of `b`.  A scan of both goes on in `b`
with what was open at the end of `a`, and that is a question of parity.

* An even number of marker lines in `a` leaves nothing open: `b` is scanned as if it
  stood alone, only further down.
* An odd number leaves the block open that the last of them opened.  Its lines go on in
  `b` up to the first marker line there, which closes it; what follows that line is
  scanned as if it stood alone.  Without a marker line in `b` the block is never closed.

In both cases the blocks of `a` are there first, unchanged: a text that grows at its end
loses no block.

* `scan_append` — the scan of both, by way of what was left open.
* `scan_append_atLineEnd` — the blocks of both, in the cases above.
-/
import Docstrings.Proofs.Scan.Pairing
import Docstrings.Proofs.Scan.Whole

namespace Docstrings

open Text

/-! ### Going on in another text -/

/-- The scan of a text that has grown at its end goes on with what was left open. -/
theorem scan_append {a : String} (h : AtLineEnd a.toList) (b : String) :
    scan (a ++ b) = (scan a).andThen
      (scanFrom (1 + (lines a.toList).length) (scan a).unclosed (lines b.toList)) := by
  rw [scan, String.toList_append, lines_append h, scanFrom_append]
  rfl

/-- A text that has grown at its end has lost no block. -/
theorem blocks_isPrefix_append {a : String} (h : AtLineEnd a.toList) (b : String) :
    (scan a).blocks <+: (scan (a ++ b)).blocks := by
  rw [scan_append h]
  exact List.prefix_append _ _

/-- The blocks of a text that is scanned from further down. -/
theorem blocks_scanFrom_one_add (k : Nat) (ls : List Line) :
    (scanFrom (1 + k) none ls).blocks = (scanFrom 1 none ls).blocks.map (Block.shift k) :=
  congrArg Scan.blocks (scanFrom_shift k 1 none ls)

/-- The scan of what follows the first so many lines. -/
theorem scan_afterLine (m : Nat) (content : String) :
    scan (String.ofList (afterLine m content.toList))
      = scanFrom 1 none ((lines content.toList).drop m) := by
  rw [scan, String.toList_ofList, lines_afterLine]

/-! ### The first marker line -/

theorem markerNumbersFrom_eq_nil_iff {n : Nat} {ls : List Line} :
    markerNumbersFrom n ls = [] ↔ ∀ l ∈ ls, hasMarker l = false := by
  induction ls generalizing n with
  | nil => simp [markerNumbersFrom]
  | cons l ls ih =>
    by_cases h : hasMarker l = true
    · simp [markerNumbersFrom_cons_marked h, h]
    · rw [Bool.not_eq_true] at h
      simp [markerNumbersFrom_cons_unmarked h, h, ih]

/-- The first number is that of the first marker line: no line before it holds a
marker. -/
theorem exists_of_head?_markerNumbersFrom {n m : Nat} {ls : List Line}
    (h : (markerNumbersFrom n ls).head? = some m) :
    ∃ inner l rest, ls = inner ++ l :: rest ∧ (∀ k ∈ inner, hasMarker k = false) ∧
      hasMarker l = true ∧ m = n + inner.length := by
  induction ls generalizing n with
  | nil => simp [markerNumbersFrom] at h
  | cons l ls ih =>
    by_cases hl : hasMarker l = true
    · obtain rfl : n = m := by simpa [markerNumbersFrom_cons_marked hl] using h
      exact ⟨[], l, ls, rfl, by simp, hl, rfl⟩
    · rw [Bool.not_eq_true] at hl
      rw [markerNumbersFrom_cons_unmarked hl] at h
      obtain ⟨inner, k, rest, hls, hinner, hk, hm⟩ := ih h
      refine ⟨l :: inner, k, rest, by simp [hls], ?_, hk, ?_⟩
      · simpa [hl] using hinner
      · rw [hm, List.length_cons]
        omega

/-! ### The block across the end of the first text -/

/-- The block opened by line number `s` of the one text and closed by line number `m` of
the other one, behind it. -/
def blockAcross (a b : List Line) (s m : Nat) : Block where
  text := String.ofList (joined ((a.drop (s - 1) ++ b.take m).map trim))
  startLine := s
  endLine := a.length + m

theorem lines_openSince (ls : List Line) (s : Nat) :
    (openSince ls s).lines = (ls.drop (s - 1)).map trim := by
  simp [Opening.lines, openSince]

/-- A scan that goes on with a block open closes it at the first marker line, and scans
the lines behind that one as if they stood alone. -/
theorem blocks_scanFrom_openSince {a b : List Line} {s m : Nat}
    (h : (markerNumbers b).head? = some m) :
    (scanFrom (1 + a.length) (some (openSince a s)) b).blocks
      = blockAcross a b s m ::
          (scanFrom 1 none (b.drop m)).blocks.map (Block.shift (a.length + m)) := by
  obtain ⟨inner, l, rest, hb, hinner, hl, hm⟩ := exists_of_head?_markerNumbersFrom h
  have htake : b.take m = inner ++ [l] := by
    rw [hb, List.append_cons]
    exact List.take_left' (by simp [hm, Nat.add_comm])
  have hdrop : b.drop m = rest := by
    rw [hb, List.append_cons]
    exact List.drop_left' (by simp [hm, Nat.add_comm])
  have hend : 1 + a.length + inner.length = a.length + m := by omega
  have hnext : a.length + m + 1 = 1 + (a.length + m) := by omega
  have hlines : (openSince a s).lines ++ (inner ++ [l]).map trim
      = (a.drop (s - 1) ++ b.take m).map trim := by
    rw [lines_openSince, htake]
    exact List.map_append.symm
  rw [hdrop, ← blocks_scanFrom_one_add, blockAcross, ← hlines, hb,
    scanFrom_some_append_marked _ _ hinner hl, hend, hnext]
  rfl

/-! ### Both texts -/

/-- **Scanning is compositional at line ends.**  If a text stops at the end of a line, the
blocks of what comes behind it are added to those of the text itself: as they are,
further down, if the text has an even number of marker lines; and if the number is odd,
with its last marker line taking the first one of what comes behind for its partner. -/
theorem scan_append_atLineEnd (a b : String) (h : AtLineEnd a.toList) :
    ((markerNumbersIn a).length % 2 = 0 →
      (scan (a ++ b)).blocks
        = (scan a).blocks ++ (scan b).blocks.map (Block.shift (lines a.toList).length)) ∧
    ((markerNumbersIn a).length % 2 = 1 →
      ∃ s, (markerNumbersIn a).getLast? = some s ∧
        (markerNumbersIn b = [] → (scan (a ++ b)).blocks = (scan a).blocks) ∧
        ∀ m, (markerNumbersIn b).head? = some m →
          (scan (a ++ b)).blocks
            = (scan a).blocks ++ blockAcross (lines a.toList) (lines b.toList) s m ::
                (scan (String.ofList (afterLine m b.toList))).blocks.map
                  (Block.shift ((lines a.toList).length + m))) ∧
    (scan a).blocks <+: (scan (a ++ b)).blocks := by
  have hblocks : (scan (a ++ b)).blocks = (scan a).blocks ++
      (scanFrom (1 + (lines a.toList).length) (scan a).unclosed (lines b.toList)).blocks := by
    rw [scan_append h]
    rfl
  refine ⟨fun heven => ?_, fun hodd => ?_, blocks_isPrefix_append h b⟩
  · -- nothing was left open
    rw [hblocks, unclosed_scan_of_even heven, blocks_scanFrom_one_add]
    rfl
  · -- the last marker line of `a` left its block open
    obtain ⟨s, hlast, hopen, -⟩ := unclosed_scan_of_odd hodd
    rw [hopen] at hblocks
    refine ⟨s, hlast, fun hnone => ?_, fun m hm => ?_⟩
    · have hunmarked : ∀ l ∈ lines b.toList, hasMarker l = false :=
        markerNumbersFrom_eq_nil_iff.1 hnone
      rw [hblocks, scanFrom_some_unmarked hunmarked, List.append_nil]
    · rw [hblocks, blocks_scanFrom_openSince hm, scan_afterLine]

/-- A block that is opened in the one text and closed in the other one, with a second
block behind it. -/
theorem scan_append_across :
    AtLineEnd "\"\"\"\nx\n".toList ∧
    (scan ("\"\"\"\nx\n" ++ "  '''\r\n'''\n\"\"\"")).blocks
      = [⟨"\"\"\"\nx\n'''", 1, 3⟩, ⟨"'''\n\"\"\"", 4, 5⟩] := by
  have hend : AtLineEnd "\"\"\"\nx\n".toList := by decide
  obtain ⟨-, hodd, -⟩ := scan_append_atLineEnd "\"\"\"\nx\n" "  '''\r\n'''\n\"\"\"" hend
  obtain ⟨s, hlast, -, hacross⟩ := hodd (by decide)
  obtain rfl : 1 = s := Option.some.inj (by rw [← hlast]; decide)
  exact ⟨hend, (hacross 1 (by decide)).trans (by decide)⟩

end Docstrings

/-
Docstrings/Proofs/Scan/Pairing.lean

The blocks of a scan, read off the numbers of the marker lines.

A scan looks at one line after the other; what it comes to can be said without
it.  Let `m₁ < m₂ < ... < mₖ` be the numbers of the marker lines.  They are taken
in pairs: `m₁` and `m₂` are the first and the last line of the first block, `m₃`
and `m₄` of the second one, and so on; if `k` is odd, `mₖ` is left over, and
opens a block that is never closed:

    scan text = pairUp (lines text) [m₁, ..., mₖ]

The invariant that carries the induction: after the lines `seen`, the open block
is `openSince seen s`, where `s` is the number of the line that opened it.

* `mem_markerNumbers_iff` — which numbers these are.
* `scanFrom_eq_pairUp` — a scan pairs up the marker lines.
* `unclosed_scan_of_odd`, `events_scan_of_odd` — what is left open, and what is told of it.
* `scan_pairs_markerNumbers` — every block, and the event of the block that is
  left open, in terms of the numbers.
-/
import Docstrings.Extraction

namespace Docstrings

open Text

/-! ### The numbers of the marker lines -/

/-- The numbers of the marker lines among lines of which the first has number
`n`. -/
def markerNumbersFrom (n : Nat) : List Line → List Nat
  | [] => []
  | l :: ls =>
    if hasMarker l then n :: markerNumbersFrom (n + 1) ls else markerNumbersFrom (n + 1) ls

/-- The numbers of the marker lines, counted from one. -/
def markerNumbers (ls : List Line) : List Nat := markerNumbersFrom 1 ls

/-- The numbers of the marker lines of a text. -/
def markerNumbersIn (content : String) : List Nat := markerNumbers (lines content.toList)

theorem markerNumbersFrom_cons_marked {n : Nat} {l : Line} {ls : List Line}
    (h : hasMarker l = true) :
    markerNumbersFrom n (l :: ls) = n :: markerNumbersFrom (n + 1) ls := by
  simp [markerNumbersFrom, h]

theorem markerNumbersFrom_cons_unmarked {n : Nat} {l : Line} {ls : List Line}
    (h : hasMarker l = false) :
    markerNumbersFrom n (l :: ls) = markerNumbersFrom (n + 1) ls := by
  simp [markerNumbersFrom, h]

theorem mem_markerNumbersFrom_iff {n k : Nat} {ls : List Line} :
    k ∈ markerNumbersFrom n ls ↔
      n ≤ k ∧ ∃ l, ls[k - n]? = some l ∧ hasMarker l = true := by
  induction ls generalizing n with
  | nil => simp [markerNumbersFrom]
  | cons l ls ih =>
    rcases Nat.lt_trichotomy k n with hlt | rfl | hgt
    · -- `k` comes before this line
      have hrest : ¬ n + 1 ≤ k := by omega
      have hne : k ≠ n := by omega
      have hle : ¬ n ≤ k := by omega
      by_cases h : hasMarker l = true <;> simp [markerNumbersFrom, h, ih, hrest, hne, hle]
    · -- `k` is the number of this line
      have hrest : (k + 1 ≤ k) = False := eq_false (by omega)
      by_cases h : hasMarker l = true <;> simp [markerNumbersFrom, h, ih, hrest]
    · -- `k` is the number of one of the lines that follow
      have hne : k ≠ n := by omega
      have hle : n ≤ k := by omega
      have hrest : n + 1 ≤ k := hgt
      have hindex : k - n = k - (n + 1) + 1 := by omega
      by_cases h : hasMarker l = true <;>
        simp [markerNumbersFrom, h, ih, hne, hle, hrest, hindex]

/-- The numbers are those of the lines that hold one of the two markers. -/
theorem mem_markerNumbers_iff {k : Nat} {ls : List Line} :
    k ∈ markerNumbers ls ↔
      1 ≤ k ∧ ∃ l, ls[k - 1]? = some l ∧ ∃ m : Marker, m.text <:+: l := by
  simp only [markerNumbers, mem_markerNumbersFrom_iff, hasMarker_iff]

/-- The numbers are among those of all lines. -/
theorem le_and_le_of_mem_markerNumbers {k : Nat} {ls : List Line} (h : k ∈ markerNumbers ls) :
    1 ≤ k ∧ k ≤ ls.length := by
  obtain ⟨hk, l, hl, -⟩ := mem_markerNumbers_iff.1 h
  obtain ⟨hlt, -⟩ := List.getElem?_eq_some_iff.1 hl
  omega

theorem pairwise_markerNumbersFrom (n : Nat) (ls : List Line) :
    (markerNumbersFrom n ls).Pairwise (· < ·) := by
  induction ls generalizing n with
  | nil => exact List.Pairwise.nil
  | cons l ls ih =>
    by_cases h : hasMarker l = true
    · rw [markerNumbersFrom_cons_marked h]
      refine List.Pairwise.cons (fun k hk => ?_) (ih (n + 1))
      have hk' := (mem_markerNumbersFrom_iff.1 hk).1
      omega
    · rw [Bool.not_eq_true] at h
      rw [markerNumbersFrom_cons_unmarked h]
      exact ih (n + 1)

/-! ### Pairing them up -/

/-- The lines from number `s` to number `e`, both included. -/
def linesBetween (s e : Nat) (ls : List Line) : List Line := (ls.take e).drop (s - 1)

/-- The block made of the lines from number `s` to number `e`. -/
def blockBetween (ls : List Line) (s e : Nat) : Block where
  text := String.ofList (joined ((linesBetween s e ls).map trim))
  startLine := s
  endLine := e

/-- The block opened by line number `s` and not closed by any of the lines. -/
def openSince (ls : List Line) (s : Nat) : Opening where
  startLine := s
  newestFirst := ((ls.drop (s - 1)).map trim).reverse

/-- The scan that takes the numbers in pairs, the first and the last line of a
block. -/
def pairUp (ls : List Line) : List Nat → Scan
  | [] => ⟨[], none⟩
  | [s] => ⟨[], some (openSince ls s)⟩
  | s :: e :: rest => (pairUp ls rest).cons (blockBetween ls s e)

theorem start_eq_openSince (seen : List Line) (l : Line) :
    Opening.start (seen.length + 1) l = openSince (seen ++ [l]) (seen.length + 1) := by
  simp [Opening.start, openSince]

theorem push_openSince {seen : List Line} {s : Nat} (l : Line) (h : s ≤ seen.length) :
    (openSince seen s).push l = openSince (seen ++ [l]) s := by
  have hdrop : (seen ++ [l]).drop (s - 1) = seen.drop (s - 1) ++ [l] :=
    List.drop_append_of_le_length (by omega)
  simp [Opening.push, openSince, hdrop]

theorem close_openSince {seen : List Line} {s : Nat} (l : Line) (rest : List Line)
    (h : s ≤ seen.length) :
    (openSince seen s).close (seen.length + 1) l
      = blockBetween (seen ++ l :: rest) s (seen.length + 1) := by
  have htake : (seen ++ l :: rest).take (seen.length + 1) = seen ++ [l] := by
    rw [List.append_cons]
    exact List.take_left' (by simp)
  have hlines : ((openSince seen s).push l).lines = ((seen ++ [l]).drop (s - 1)).map trim := by
    rw [push_openSince l h]
    simp [Opening.lines, openSince]
  simp only [Opening.close, hlines, blockBetween, linesBetween, htake]
  rfl

/-- A scan that goes on after the lines `seen`, with a block open since one of
them or none, pairs up the marker lines. -/
theorem scanFrom_eq_pairUp (seen ls : List Line) (s : Option Nat)
    (hs : ∀ m, s = some m → m ≤ seen.length) :
    scanFrom (seen.length + 1) (s.map (openSince seen)) ls
      = pairUp (seen ++ ls) (s.toList ++ markerNumbersFrom (seen.length + 1) ls) := by
  induction ls generalizing seen s with
  | nil =>
    cases s with
    | none => rfl
    | some m => simp [markerNumbersFrom, pairUp]
  | cons l ls ih =>
    have hseen : (seen ++ [l]).length = seen.length + 1 := by simp
    have hall : (seen ++ [l]) ++ ls = seen ++ l :: ls := by simp
    -- what follows is scanned with one more line seen
    have hnext := ih (seen ++ [l])
    rw [hseen, hall] at hnext
    cases s with
    | none =>
      by_cases h : hasMarker l = true
      · -- the line opens a block: its number waits for a second one
        rw [Option.map_none, scanFrom_opens h, markerNumbersFrom_cons_marked h,
          start_eq_openSince]
        exact hnext (some (seen.length + 1)) (by simp)
      · rw [Bool.not_eq_true] at h
        rw [Option.map_none, scanFrom_skips h, markerNumbersFrom_cons_unmarked h]
        exact hnext none (by simp)
    | some m =>
      have hm : m ≤ seen.length := hs m rfl
      by_cases h : hasMarker l = true
      · -- the line closes the block: its number makes a pair with the one that waits
        rw [Option.map_some, scanFrom_closes h, markerNumbersFrom_cons_marked h,
          close_openSince l ls hm]
        have hrest := hnext none (by simp)
        rw [Option.map_none] at hrest
        rw [hrest]
        rfl
      · rw [Bool.not_eq_true] at h
        rw [Option.map_some, scanFrom_collects h, markerNumbersFrom_cons_unmarked h,
          push_openSince l hm]
        refine hnext (some m) ?_
        rintro m' ⟨⟩
        omega

theorem scan_eq_pairUp (content : String) :
    scan content = pairUp (lines content.toList) (markerNumbersIn content) :=
  scanFrom_eq_pairUp [] (lines content.toList) none (by simp)

/-! ### Reading the pairs off -/

@[simp] theorem length_blocks_pairUp (ls : List Line) (ms : List Nat) :
    (pairUp ls ms).blocks.length = ms.length / 2 := by
  fun_induction pairUp ls ms with
  | case1 => rfl
  | case2 s => simp
  | case3 s e rest ih =>
    simp only [Scan.cons, List.length_cons, ih]
    omega

/-- Block number `i`, counted from zero, takes the numbers at the places `2 * i` and
`2 * i + 1`. -/
theorem getElem?_blocks_pairUp (ls : List Line) {ms : List Nat} {i : Nat}
    (h : i < ms.length / 2) :
    ∃ s e, ms[2 * i]? = some s ∧ ms[2 * i + 1]? = some e ∧
      (pairUp ls ms).blocks[i]? = some (blockBetween ls s e) := by
  fun_induction pairUp ls ms generalizing i with
  | case1 => simp at h
  | case2 s => simp at h
  | case3 s e rest ih =>
    cases i with
    | zero => exact ⟨s, e, rfl, rfl, rfl⟩
    | succ i =>
      -- the block is one of those behind the first pair
      have hi : i < rest.length / 2 := by
        simp only [List.length_cons] at h
        omega
      obtain ⟨s', e', hs', he', hblock⟩ := ih hi
      exact ⟨s', e', hs', he', hblock⟩

theorem unclosed_pairUp_of_even (ls : List Line) {ms : List Nat} (h : ms.length % 2 = 0) :
    (pairUp ls ms).unclosed = none := by
  fun_induction pairUp ls ms with
  | case1 => rfl
  | case2 s => simp at h
  | case3 s e rest ih =>
    refine ih ?_
    simp only [List.length_cons] at h
    omega

/-- Of an odd number of marker lines the last one is left over, and it comes after
all blocks. -/
theorem unclosed_pairUp_of_odd (ls : List Line) {ms : List Nat} (hsorted : ms.Pairwise (· < ·))
    (h : ms.length % 2 = 1) :
    ∃ m, ms.getLast? = some m ∧ (pairUp ls ms).unclosed = some (openSince ls m) ∧
      ∀ b ∈ (pairUp ls ms).blocks, b.endLine < m := by
  fun_induction pairUp ls ms with
  | case1 => simp at h
  | case2 s => exact ⟨s, rfl, rfl, by simp⟩
  | case3 s e rest ih =>
    have hrest : rest.length % 2 = 1 := by
      simp only [List.length_cons] at h
      omega
    obtain ⟨hs, he, hsorted'⟩ : (∀ k ∈ e :: rest, s < k) ∧ (∀ k ∈ rest, e < k) ∧
        rest.Pairwise (· < ·) := by
      simpa [List.pairwise_cons] using hsorted
    obtain ⟨m, hlast, hopen, hblocks⟩ := ih hsorted' hrest
    have hm : m ∈ rest := List.mem_of_getLast? hlast
    refine ⟨m, ?_, hopen, ?_⟩
    · rw [List.getLast?_cons_cons, List.getLast?_cons, hlast]
      rfl
    · intro b hb
      rcases List.mem_cons.1 hb with rfl | hb
      · exact he m hm
      · exact hblocks b hb

/-! ### The scan of a text -/

theorem lineCount_openSince {ls : List Line} {m : Nat} (h : m ∈ markerNumbers ls) :
    (openSince ls m).lineCount = ls.length - m + 1 := by
  obtain ⟨hfirst, hlast⟩ := le_and_le_of_mem_markerNumbers h
  simp only [Opening.lineCount, openSince, List.length_reverse, List.length_map,
    List.length_drop]
  omega

section

variable {content : String}

/-- An even number of marker lines leaves nothing open. -/
theorem unclosed_scan_of_even (h : (markerNumbersIn content).length % 2 = 0) :
    (scan content).unclosed = none := by
  rw [scan_eq_pairUp, unclosed_pairUp_of_even _ h]

/-- Of an odd number of marker lines the last one has opened a block that is left open,
behind all the others. -/
theorem unclosed_scan_of_odd (h : (markerNumbersIn content).length % 2 = 1) :
    ∃ m, (markerNumbersIn content).getLast? = some m ∧
      (scan content).unclosed = some (openSince (lines content.toList) m) ∧
      ∀ b ∈ (scan content).blocks, b.endLine < m := by
  rw [scan_eq_pairUp]
  exact unclosed_pairUp_of_odd _ (pairwise_markerNumbersFrom 1 (lines content.toList)) h

theorem events_scan_of_even (h : (markerNumbersIn content).length % 2 = 0) :
    (scan content).events = [] := by
  rw [Scan.events, unclosed_scan_of_even h]

/-- The block that is left open is told to be dropped, with all lines from its first one
on. -/
theorem events_scan_of_odd (h : (markerNumbersIn content).length % 2 = 1) :
    ∃ m, (markerNumbersIn content).getLast? = some m ∧
      (∀ b ∈ (scan content).blocks, b.endLine < m) ∧
      (scan content).events
        = [.blockDropped m ((lines content.toList).length - m + 1)] := by
  obtain ⟨m, hlast, hopen, hblocks⟩ := unclosed_scan_of_odd h
  refine ⟨m, hlast, hblocks, ?_⟩
  rw [Scan.events, hopen, ← lineCount_openSince (List.mem_of_getLast? hlast)]
  rfl

end

/-- **A scan pairs up the marker lines.**  Of `k` marker lines, the first two are the
first and the last line of the first block, the next two those of the second block,
and so on; if `k` is odd, the last one opens a block that is dropped, and nothing
from there on is part of any block. -/
theorem scan_pairs_markerNumbers (content : String) :
    ((markerNumbersIn content).Pairwise (· < ·) ∧
      ∀ k, k ∈ markerNumbersIn content ↔
        1 ≤ k ∧ ∃ l, (lines content.toList)[k - 1]? = some l ∧ ∃ m : Marker, m.text <:+: l) ∧
    (scan content).blocks.length = (markerNumbersIn content).length / 2 ∧
    (∀ i < (markerNumbersIn content).length / 2, ∃ s e,
      (markerNumbersIn content)[2 * i]? = some s ∧
      (markerNumbersIn content)[2 * i + 1]? = some e ∧
      (scan content).blocks[i]?
        = some ⟨String.ofList (joined ((linesBetween s e (lines content.toList)).map trim)),
            s, e⟩) ∧
    ((markerNumbersIn content).length % 2 = 1 →
      ∃ m, (markerNumbersIn content).getLast? = some m ∧
        (∀ b ∈ (scan content).blocks, b.endLine < m) ∧
        (scan content).events
          = [.blockDropped m ((lines content.toList).length - m + 1)]) ∧
    ((markerNumbersIn content).length % 2 = 0 → (scan content).events = []) := by
  have hscan := scan_eq_pairUp content
  have hsorted : (markerNumbersIn content).Pairwise (· < ·) :=
    pairwise_markerNumbersFrom 1 (lines content.toList)
  refine ⟨⟨hsorted, fun k => mem_markerNumbers_iff⟩, ?_, ?_, events_scan_of_odd,
    events_scan_of_even⟩
  · rw [hscan]
    exact length_blocks_pairUp _ _
  · intro i hi
    rw [hscan]
    exact getElem?_blocks_pairUp _ hi

end Docstrings

/-
Docstrings/Proofs/Scan/Layout.lean

What a scan does not see: line endings and margins.

A scan looks for markers in a line as it is, and keeps the line without its margins.
Since a line holds a marker exactly if it does without its margins, the scan comes to
the same if the margins are not there in the first place:

    scanFrom n o (ls.map trim) = scanFrom n o ls

So texts whose trimmed lines are the same have the same scan.  A carriage return is a
blank, which makes line endings a case of margins.  One thing is left to look at: with
its margins, the last line of a text may disappear, or appear where there was none.
Such a line is empty and comes behind all others, and no block depends on it.

* `scan_congr` — texts with the same trimmed lines have the same scan.
* `scan_withReturns` — carriage returns before the line feeds change nothing.
* `blocks_scan_eq` — the blocks, by way of the pieces of the text.
* `scan_ignores_layout` — all of these, and blank lines at the end.
-/
import Mathlib.Data.List.Forall2
import Mathlib.Data.List.TakeWhile
import Docstrings.Extraction
import Docstrings.Proofs.Scan.Margin
import Docstrings.Proofs.Text.Terminated

namespace Docstrings

open Text

namespace Text

/-! ### Margins of a line -/

/-- The line is the core with blanks before and behind it. -/
def HasCore (l core : Line) : Prop :=
  ∃ left right, (∀ c ∈ left, isBlank c = true) ∧ (∀ c ∈ right, isBlank c = true) ∧
    l = left ++ core ++ right

/-- The lines are the same but for the blanks at their two ends. -/
def SameButMargins (l m : Line) : Prop := ∃ core, HasCore l core ∧ HasCore m core

theorem trim_append_of_blank (l : Line) {right : Line} (h : ∀ c ∈ right, isBlank c = true) :
    trim (l ++ right) = trim l := by
  have hend : ∀ k : Line, trimEnd (k ++ right) = trimEnd k := by
    intro k
    rw [trimEnd, List.reverse_append,
      List.dropWhile_append_of_pos fun c hc => h c (List.mem_reverse.1 hc), trimEnd]
  by_cases hl : trimStart l = []
  · -- nothing is left of either line
    have hright : trimStart (l ++ right) = [] := by
      rw [trimStart, List.dropWhile_append, if_pos (by simpa [trimStart] using hl)]
      exact List.dropWhile_eq_nil_iff.2 h
    rw [trim, trim, hright, hl]
  · have hright : trimStart (l ++ right) = trimStart l ++ right := by
      rw [trimStart, List.dropWhile_append, if_neg (by simpa [trimStart] using hl)]
      rfl
    rw [trim, hright, hend, trim]

theorem trim_blank_append (l : Line) {left : Line} (h : ∀ c ∈ left, isBlank c = true) :
    trim (left ++ l) = trim l := by
  rw [trim, trimStart, List.dropWhile_append_of_pos h]
  rfl

theorem HasCore.trim_eq {l core : Line} (h : HasCore l core) : trim l = trim core := by
  obtain ⟨left, right, hleft, hright, rfl⟩ := h
  rw [trim_append_of_blank _ hright, trim_blank_append _ hleft]

theorem SameButMargins.trim_eq {l m : Line} (h : SameButMargins l m) : trim l = trim m := by
  obtain ⟨core, hl, hm⟩ := h
  rw [hl.trim_eq, hm.trim_eq]

theorem map_trim_eq {ls ms : List Line} (h : List.Forall₂ SameButMargins ls ms) :
    ls.map trim = ms.map trim := by
  induction h with
  | nil => rfl
  | cons hl _ ih => rw [List.map_cons, List.map_cons, hl.trim_eq, ih]

/-! ### Line endings -/

/-- A carriage return at the end of a line is part of its margin. -/
@[simp] theorem trim_concat_return (l : Line) : trim (l ++ ['\r']) = trim l :=
  trim_append_of_blank l (by simp)

@[simp] theorem trim_dropReturn (l : Line) : trim (dropReturn l) = trim l := by
  by_cases h : l.getLast? = some '\r'
  · obtain ⟨front, rfl⟩ := List.getLast?_eq_some_iff.1 h
    rw [dropReturn_concat_return, trim_concat_return]
  · rw [dropReturn_of_getLast?_ne h]

/-- The text with a carriage return before each line feed. -/
def withReturns (text : List Char) : List Char :=
  text.flatMap fun c => if c = '\n' then ['\r', '\n'] else [c]

theorem withReturns_of_feed_not_mem {l : Line} (h : '\n' ∉ l) : withReturns l = l := by
  induction l with
  | nil => rfl
  | cons c l ih =>
    have hc : c ≠ '\n' := fun hfeed => h (by simp [hfeed])
    have hl : withReturns l = l := ih fun hfeed => h (List.mem_cons_of_mem c hfeed)
    rw [withReturns, List.flatMap_cons, if_neg hc, List.singleton_append]
    exact congrArg (c :: ·) hl

theorem withReturns_append_feed {l : Line} (rest : List Char) (h : '\n' ∉ l) :
    withReturns (l ++ '\n' :: rest) = (l ++ ['\r']) ++ '\n' :: withReturns rest := by
  have hl := withReturns_of_feed_not_mem h
  unfold withReturns at hl ⊢
  simp [hl]

/-- Carriage returns before the line feeds are part of the margins. -/
theorem map_trim_lines_withReturns (text : List Char) :
    (lines (withReturns text)).map trim = (lines text).map trim := by
  induction text using text_induction with
  | last l hl => rw [withReturns_of_feed_not_mem hl]
  | feed l rest hl ih =>
    have hreturn : '\n' ∉ l ++ ['\r'] := by simpa using hl
    rw [withReturns_append_feed rest hl, lines_append_feed _ hreturn, lines_append_feed _ hl,
      dropReturn_concat_return, List.map_cons, List.map_cons, ih, trim_dropReturn]

/-- The pieces of a text are its lines and perhaps one empty piece, as far as margins do
not count. -/
theorem map_trim_pieces (text : List Char) :
    (pieces text).map trim = (lines text).map trim ∨
      (pieces text).map trim = (lines text).map trim ++ [[]] := by
  induction text using text_induction with
  | last l hl =>
    rw [pieces_of_feed_not_mem hl, lines_of_feed_not_mem hl]
    by_cases hnil : l = []
    · exact .inr (by simp [hnil])
    · exact .inl (by simp [hnil])
  | feed l rest hl ih =>
    rw [pieces_append_feed rest hl, lines_append_feed rest hl, List.map_cons, List.map_cons,
      trim_dropReturn]
    rcases ih with ih | ih
    · exact .inl (by rw [ih])
    · exact .inr (by rw [ih, List.cons_append])

end Text

/-! ### Scans and margins -/

theorem scanFrom_map_trim (n : Nat) (o : Option Opening) (ls : List Line) :
    scanFrom n o (ls.map trim) = scanFrom n o ls := by
  have hstart : ∀ k l, Opening.start k (trim l) = Opening.start k l := by simp [Opening.start]
  have hpush : ∀ (p : Opening) l, p.push (trim l) = p.push l := by simp [Opening.push]
  fun_induction scanFrom n o ls with
  | case1 => simp
  | case2 n l ls h ih => rw [List.map_cons, scanFrom_opens (by simpa using h), hstart, ih]
  | case3 n l ls h ih => rw [List.map_cons, scanFrom_skips (by simpa using h), ih]
  | case4 n o l ls h ih =>
    rw [List.map_cons, scanFrom_closes (by simpa using h), ih, Opening.close, hpush]
    rfl
  | case5 n o l ls h ih => rw [List.map_cons, scanFrom_collects (by simpa using h), hpush, ih]

/-- Texts whose trimmed lines are the same have the same scan. -/
theorem scan_congr {a b : String}
    (h : (lines a.toList).map trim = (lines b.toList).map trim) : scan a = scan b := by
  rw [scan, ← scanFrom_map_trim, h, scanFrom_map_trim, scan]

/-- Carriage returns before the line feeds change nothing. -/
theorem scan_withReturns (content : String) :
    scan (String.ofList (withReturns content.toList)) = scan content := by
  apply scan_congr
  rw [String.toList_ofList, map_trim_lines_withReturns]

/-! ### Lines at the end -/

/-- Lines without a marker at the end add no block. -/
theorem blocks_scanFrom_append_unmarked (n : Nat) (o : Option Opening) (ls : List Line)
    {tail : List Line} (h : ∀ l ∈ tail, hasMarker l = false) :
    (scanFrom n o (ls ++ tail)).blocks = (scanFrom n o ls).blocks := by
  have htail : ∀ k p, (scanFrom k p tail).blocks = [] := by
    intro k p
    cases p with
    | none => rw [scanFrom_none_unmarked h]
    | some p => rw [scanFrom_some_unmarked h]
  rw [scanFrom_append, Scan.andThen, htail, List.append_nil]

/-- The blocks of a text, by way of its pieces without their margins. -/
theorem blocks_scan_eq (content : String) :
    (scan content).blocks = (scanFrom 1 none ((pieces content.toList).map trim)).blocks := by
  rw [scan, ← scanFrom_map_trim]
  rcases map_trim_pieces content.toList with h | h
  · rw [h]
  · rw [h, blocks_scanFrom_append_unmarked _ _ _ (by simp)]

theorem hasMarker_of_blank {l : Line} (h : ∀ c ∈ l, isBlank c = true) : hasMarker l = false := by
  apply hasMarker_eq_false
  intro m hm
  have hblank := h m.quote hm
  rw [m.isBlank_quote] at hblank
  exact absurd hblank (by simp)

/-- Blank lines at the end add no block. -/
theorem blocks_scan_append_blank {a b : String} (h : AtLineEnd a.toList)
    (hb : ∀ c ∈ b.toList, isBlank c = true) : (scan (a ++ b)).blocks = (scan a).blocks := by
  rw [scan, String.toList_append, lines_append h, blocks_scanFrom_append_unmarked, scan]
  intro l hl
  exact hasMarker_of_blank fun c hc => hb c (mem_of_mem_lines hl hc)

/-- **A scan sees neither line endings nor margins.**  Texts whose trimmed lines are the
same have the same blocks and the same events.  So it does not matter how lines end,
what blanks stand at their two ends, and how many blank lines there are at the end. -/
theorem scan_ignores_layout :
    (∀ a b : String, (lines a.toList).map trim = (lines b.toList).map trim →
      (scan a).blocks = (scan b).blocks ∧ (scan a).events = (scan b).events) ∧
    (∀ a : String, scan (String.ofList (withReturns a.toList)) = scan a) ∧
    (∀ a b : String, List.Forall₂ SameButMargins (pieces a.toList) (pieces b.toList) →
      (scan a).blocks = (scan b).blocks) ∧
    (∀ a b : String, AtLineEnd a.toList → (∀ c ∈ b.toList, isBlank c = true) →
      (scan (a ++ b)).blocks = (scan a).blocks) := by
  refine ⟨fun a b h => ?_, scan_withReturns, fun a b h => ?_, fun a b h hb => ?_⟩
  · rw [scan_congr h]
    exact ⟨rfl, rfl⟩
  · rw [blocks_scan_eq, blocks_scan_eq, map_trim_eq h]
  · exact blocks_scan_append_blank h hb

/-- Two texts that differ in margins and line endings, with a block left open at the end. -/
theorem scan_ignores_layout_mixed :
    (lines "\t'''\r\nx \n'''\n\"\"\"".toList).map trim
      = (lines "'''\nx\n\u3000'''\n\"\"\"\r\r\n".toList).map trim ∧
    (scan "\t'''\r\nx \n'''\n\"\"\"").blocks = (scan "'''\nx\n\u3000'''\n\"\"\"\r\r\n").blocks ∧
    (scan "\t'''\r\nx \n'''\n\"\"\"").events = (scan "'''\nx\n\u3000'''\n\"\"\"\r\r\n").events := by
  have hlines : (lines "\t'''\r\nx \n'''\n\"\"\"".toList).map trim
      = (lines "'''\nx\n\u3000'''\n\"\"\"\r\r\n".toList).map trim := by decide
  exact ⟨hlines, scan_ignores_layout.1 _ _ hlines⟩

end Docstrings

/-
Docstrings/Proofs/Markdown/Rescan.lean

Reports are read back: the scan of a report finds the blocks that were reported.

Around the text of a block a report has a heading, empty lines and fences, and
none of these lines holds a marker.  So the marker lines of a report are those of
the texts, and if the texts are whole, that is the first and the last line of
each.  What the scan of a report finds has the texts of the blocks reported, and
stands where the report put them:

    scan (render bs) = ⟨placedFrom 1 bs, none⟩

Scanning and reporting are therefore the identity on reports.

* `lines_renderFrom` — the lines of a report.
* `scanFrom_reportLines` — the scan of a report, section by section.
* `scan_render_of_isWhole` — the scan of a report of whole blocks.
* `extraction_idempotent` — scan, report and scan again.
-/
import Docstrings.Extraction
import Docstrings.Proofs.Scan.Whole

namespace Docstrings

open Text

namespace Markdown

/-! ### The lines around a block -/

theorem isDigit_of_mem_toString {n : Nat} {c : Char} (h : c ∈ (toString n).toList) :
    c.isDigit = true := by
  rw [Nat.toString_eq_ofList_toDigits, String.toList_ofList] at h
  exact Nat.isDigit_of_mem_toDigits (by decide) (by decide) h

theorem toList_heading (n : Nat) :
    (heading n).toList = "## Docstring ".toList ++ (toString n).toList := by
  simp [heading]

/-- A character that is neither a digit nor one of the fixed words of a heading is in
no heading. -/
theorem not_mem_heading {n : Nat} {c : Char} (hdigit : c.isDigit = false)
    (hword : c ∉ "## Docstring ".toList) : c ∉ (heading n).toList := by
  intro h
  rw [toList_heading] at h
  rcases List.mem_append.1 h with h | h
  · exact hword h
  · simp [isDigit_of_mem_toString h] at hdigit

theorem hasMarker_heading (n : Nat) : hasMarker (heading n).toList = false := by
  apply hasMarker_eq_false
  intro m
  apply not_mem_heading
  · cases m <;> decide
  · cases m <;> decide

/-! ### The lines of a report -/

/-- The lines of the section for one text, with number `n`. -/
def sectionLines (n : Nat) (text : String) : List Line :=
  [(heading n).toList, [], fence.toList] ++ (pieces text.toList ++ [fence.toList, []])

/-- The lines of the report of blocks of which the first has number `n`. -/
def reportLines (n : Nat) : List Block → List Line
  | [] => []
  | b :: bs => sectionLines n b.text ++ reportLines (n + 1) bs

theorem toList_sectionOf (n : Nat) (text : String) :
    (sectionOf n text).toList = terminated (sectionLines n text) := by
  have htext : text.toList ++ '\n' :: (fence.toList ++ ['\n', '\n'])
      = terminated (pieces text.toList) ++ (fence.toList ++ ['\n', '\n']) := by
    rw [← joined_append_feed (pieces_ne_nil text.toList), joined_pieces]
  simp [sectionOf, sectionLines, htext]

theorem toList_renderFrom (n : Nat) (bs : List Block) :
    (renderFrom n bs).toList = terminated (reportLines n bs) := by
  induction bs generalizing n with
  | nil => rfl
  | cons b bs ih =>
    rw [renderFrom, String.toList_append, toList_sectionOf, ih, reportLines, terminated_append]

theorem forall_mem_sectionLines {p : Line → Prop} {n : Nat} {text : String}
    (hheading : p (heading n).toList) (hempty : p []) (hfence : p fence.toList)
    (htext : ∀ l ∈ pieces text.toList, p l) : ∀ l ∈ sectionLines n text, p l := by
  intro l hl
  simp only [sectionLines, List.mem_append, List.mem_cons, List.not_mem_nil, or_false] at hl
  rcases hl with (rfl | rfl | rfl) | hl | rfl | rfl
  · exact hheading
  · exact hempty
  · exact hfence
  · exact htext l hl
  · exact hfence
  · exact hempty

theorem forall_mem_reportLines {p : Line → Prop} {n : Nat} {bs : List Block}
    (hheading : ∀ k, p (heading k).toList) (hempty : p []) (hfence : p fence.toList)
    (htexts : ∀ b ∈ bs, ∀ l ∈ pieces b.text.toList, p l) : ∀ l ∈ reportLines n bs, p l := by
  induction bs generalizing n with
  | nil => simp [reportLines]
  | cons b bs ih =>
    intro l hl
    rcases List.mem_append.1 hl with hl | hl
    · exact forall_mem_sectionLines (hheading n) hempty hfence (htexts b (by simp)) l hl
    · exact ih (fun c hc => htexts c (List.mem_cons_of_mem b hc)) l hl

/-- A report is read back as the lines that it was made of. -/
theorem lines_renderFrom {n : Nat} {bs : List Block} (h : ∀ b ∈ bs, IsWhole b.text) :
    lines (renderFrom n bs).toList = reportLines n bs := by
  rw [toList_renderFrom]
  apply lines_terminated
  · apply forall_mem_reportLines
    · intro k
      exact not_mem_heading (by decide) (by decide)
    · simp
    · decide
    · exact fun b hb => (h b hb).unbroken
  · apply forall_mem_reportLines
    · intro k hreturn
      exact not_mem_heading (by decide) (by decide) (List.mem_of_getLast? hreturn)
    · simp
    · decide
    · exact fun b hb => (h b hb).getLast?_ne_return

/-! ### The scan of a report -/

/-- How many lines the section of a block has. -/
def sectionLength (b : Block) : Nat := b.lineCount + 5

/-- How many lines the sections of the blocks have together. -/
def sectionsLength : List Block → Nat
  | [] => 0
  | b :: bs => sectionLength b + sectionsLength bs

/-- Where the blocks of a report stand in it, if the report begins at line `n`. -/
def placedFrom (n : Nat) : List Block → List Block
  | [] => []
  | b :: bs => ⟨b.text, n + 3, n + 3 + b.lineCount - 1⟩ :: placedFrom (n + sectionLength b) bs

/-- A scan that meets a section finds the block in it and goes on behind it. -/
theorem scanFrom_sectionLines_append (k n : Nat) {b : Block} (h : IsWhole b.text)
    (rest : List Line) :
    scanFrom n none (sectionLines k b.text ++ rest)
      = (scanFrom (n + sectionLength b) none rest).cons
          ⟨b.text, n + 3, n + 3 + b.lineCount - 1⟩ := by
  have hfence : hasMarker fence.toList = false := by decide
  have hfront : ∀ l ∈ [(heading k).toList, [], fence.toList], hasMarker l = false := by
    simp [hasMarker_heading, hfence]
  have hback : ∀ l ∈ [fence.toList, []], hasMarker l = false := by
    simp [hfence]
  have hcount : (pieces b.text.toList).length = b.lineCount := by
    rw [Block.lineCount, Block.lines, h.lines_eq]
  have htext : String.ofList (joined (pieces b.text.toList)) = b.text := by
    rw [joined_pieces, String.ofList_toList]
  have hnext : n + 3 + b.lineCount + 2 = n + sectionLength b := by
    rw [sectionLength]
    omega
  -- over the lines in front, over the text, over the lines behind
  calc scanFrom n none (sectionLines k b.text ++ rest)
      = scanFrom (n + 3) none (pieces b.text.toList ++ ([fence.toList, []] ++ rest)) := by
        rw [sectionLines, List.append_assoc, List.append_assoc, scanFrom_unmarked_append n hfront]
        rfl
    _ = (scanFrom (n + 3 + b.lineCount) none ([fence.toList, []] ++ rest)).cons
          ⟨b.text, n + 3, n + 3 + b.lineCount - 1⟩ := by
        rw [scanFrom_wholeLines_append (n + 3) h, htext, hcount]
    _ = (scanFrom (n + sectionLength b) none rest).cons
          ⟨b.text, n + 3, n + 3 + b.lineCount - 1⟩ := by
        rw [scanFrom_unmarked_append _ hback, ← hnext]
        rfl

theorem scanFrom_reportLines (k n : Nat) {bs : List Block} (h : ∀ b ∈ bs, IsWhole b.text) :
    scanFrom n none (reportLines k bs) = ⟨placedFrom n bs, none⟩ := by
  induction bs generalizing k n with
  | nil => rfl
  | cons b bs ih =>
    have hrest := ih (k + 1) (n + sectionLength b) fun c hc => h c (List.mem_cons_of_mem b hc)
    rw [reportLines, scanFrom_sectionLines_append k n (h b (by simp)), hrest]
    rfl

/-- **The scan of a report** of whole blocks finds these blocks, where the report put
them. -/
theorem scan_render_of_isWhole {bs : List Block} (h : ∀ b ∈ bs, IsWhole b.text) :
    scan (render bs) = ⟨placedFrom 1 bs, none⟩ := by
  rw [scan, render, lines_renderFrom h, scanFrom_reportLines 1 1 h]

@[simp] theorem map_text_placedFrom (n : Nat) (bs : List Block) :
    (placedFrom n bs).map Block.text = bs.map Block.text := by
  induction bs generalizing n with
  | nil => rfl
  | cons b bs ih => rw [placedFrom, List.map_cons, List.map_cons, ih]

/-- Before each block stand the sections of those before it. -/
theorem getElem?_placedFrom (n : Nat) (bs : List Block) (i : Nat) :
    (placedFrom n bs)[i]? = bs[i]?.map fun b =>
      ⟨b.text, n + 3 + sectionsLength (bs.take i),
        n + 3 + sectionsLength (bs.take i) + b.lineCount - 1⟩ := by
  induction bs generalizing n i with
  | nil => simp [placedFrom]
  | cons b bs ih =>
    cases i with
    | zero => simp [placedFrom, sectionsLength]
    | succ i =>
      -- the section in front moves all that follow by its length
      have hstart : n + sectionLength b + 3 + sectionsLength (bs.take i)
          = n + 3 + sectionsLength ((b :: bs).take (i + 1)) := by
        rw [List.take_succ_cons, sectionsLength]
        omega
      rw [placedFrom, List.getElem?_cons_succ, List.getElem?_cons_succ, ih, hstart]

/-! ### Scan, report, and scan again -/

/-- The report of what a scan of the text finds. -/
def report (content : String) : String := render (scan content).blocks

theorem scan_report (content : String) :
    scan (report content) = ⟨placedFrom 1 (scan content).blocks, none⟩ :=
  scan_render_of_isWhole fun _ => isWhole_of_mem_blocks

/-- A report tells the texts that were found. -/
theorem map_text_scan_report (content : String) :
    (scan (report content)).blocks.map Block.text = (scan content).blocks.map Block.text := by
  rw [scan_report]
  exact map_text_placedFrom 1 (scan content).blocks

theorem length_scan_report (content : String) :
    (scan (report content)).blocks.length = (scan content).blocks.length := by
  have htexts := congrArg List.length (map_text_scan_report content)
  rwa [List.length_map, List.length_map] at htexts

/-- The report of a report is the same report. -/
theorem report_report (content : String) : report (report content) = report content :=
  renderFrom_congr (map_text_scan_report content)

/-- Two texts have the same report exactly if the same texts are found in them. -/
theorem report_eq_report_iff {a b : String} :
    report a = report b ↔ (scan a).blocks.map Block.text = (scan b).blocks.map Block.text := by
  constructor
  · intro h
    -- both reports are scanned, and the scans are compared
    calc (scan a).blocks.map Block.text
        = (scan (report a)).blocks.map Block.text := (map_text_scan_report a).symm
      _ = (scan (report b)).blocks.map Block.text := by rw [h]
      _ = (scan b).blocks.map Block.text := map_text_scan_report b
  · intro h
    exact renderFrom_congr h

/-- **Extraction is idempotent.**  The scan of a report finds the blocks that were
reported, each where its section has it, and leaves no block open; so the report of
what it finds is the same report, and reports differ if the texts do. -/
theorem extraction_idempotent (content : String) :
    (scan (report content)).blocks.length = (scan content).blocks.length ∧
    (scan (report content)).blocks.map Block.text = (scan content).blocks.map Block.text ∧
    (scan (report content)).events = [] ∧
    (∀ i : Nat, (scan (report content)).blocks[i]? = (scan content).blocks[i]?.map fun b =>
      ⟨b.text, 4 + sectionsLength ((scan content).blocks.take i),
        4 + sectionsLength ((scan content).blocks.take i) + b.lineCount - 1⟩) ∧
    report (report content) = report content ∧
    ∀ other, report other = report content ↔
      (scan other).blocks.map Block.text = (scan content).blocks.map Block.text := by
  refine ⟨length_scan_report content, map_text_scan_report content, ?_, ?_,
    report_report content, fun other => report_eq_report_iff⟩
  · rw [scan_report]
    rfl
  · intro i
    rw [scan_report]
    exact getElem?_placedFrom 1 (scan content).blocks i

end Markdown

end Docstrings

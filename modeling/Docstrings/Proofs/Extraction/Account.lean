/-
Docstrings/Proofs/Extraction/Account.lean

The account that an extraction gives of itself, from its first event to its last.

An extraction tells what it is asked to do before it looks at anything.  What it tells
next shows how far it came: without an input file it tells nothing more, and of a file
that is no text only that it is about to be read.  Of a text everything is told up to the
writing of the report, in the order of the work:

    configuration, extracting,  what was left open, the blocks,
    extracted, saving, writing,  and  saved  if the report was saved

The numbers in the account are those of the result.  As many blocks are told of as the
summary counts, and as many bytes as the output file holds afterwards.

* `eventsOf_of_no_file`, `eventsOf_of_no_text`, `eventsOf_of_text` — the account in the
  three cases.
* `mem_eventsOf_of_text_iff` — what is told of a text but for its places.
* `eventsOf_cases` — the whole of it, and its numbers.
-/
import Docstrings.Proofs.Extraction.Events
import Docstrings.Proofs.Extraction.Scanning
import Docstrings.Proofs.Scan.Pairing

namespace Docstrings

open Files Text
open Log (Event)

/-! ### The account, case by case -/

/-- What is told last: that the report was saved, if it was. -/
def lastEvents (output : Path) : Except ExtractError Summary → List Event
  | .ok _ => [.saved output]
  | .error _ => []

section

variable {c : Config} {t : Tree}

theorem eventsOf_of_no_file (h : ¬ ∃ loc content, t.NamesFile c.filePath loc content) :
    eventsOf c t = [.configuration c] := by
  unfold eventsOf
  rw [extract_of_isFile_false (Tree.isFile_eq_false_iff.2 h)]

theorem eventsOf_of_no_text {loc : Location} {content : ByteArray}
    (h : t.NamesFile c.filePath loc content) (htext : ∀ s, content ≠ encode s) :
    eventsOf c t = [.configuration c, .extracting c.filePath] := by
  have hread : t.read c.filePath = .ok content := Tree.read_eq_ok_iff.2 ⟨loc, h⟩
  unfold eventsOf
  rw [extract_of_decode?_none hread (decode?_eq_none_iff.2 htext)]

theorem eventsOf_of_text {loc : Location} {s : String}
    (h : t.NamesFile c.filePath loc (encode s)) :
    eventsOf c t = .configuration c ::
      (progressTo c.filePath c.outputFile s ++ lastEvents c.outputFile (outcome c t).1) := by
  have hread : t.read c.filePath = .ok (encode s) := Tree.read_eq_ok_iff.2 ⟨loc, h⟩
  unfold eventsOf outcome
  rw [extract_of_decode?_some hread (decode?_encode s)]
  -- whether the report is saved shows in the last event only
  rcases hwrite : t.write c.outputFile (encode (Markdown.render (scan s).blocks))
    with ⟨fault | ⟨⟩, after⟩
  · simp [hwrite, progressTo, lastEvents, Markdown.report]
  · simp [hwrite, progressTo, lastEvents, Markdown.report]

/-! ### What is told, and what is not -/

/-- The events of a text that do not come from the scanner. -/
theorem mem_eventsOf_of_text_iff {loc : Location} {s : String} {e : Event}
    (h : t.NamesFile c.filePath loc (encode s)) (hsource : e.source ≠ .scanner) :
    e ∈ eventsOf c t ↔
      e = .configuration c ∨ e = .extracting c.filePath ∨
        e = .extracted (scan s).blocks.length ∨ e = .saving c.outputFile ∨
        e = .writing (encode (Markdown.report s)).size c.outputFile ∨
        e ∈ lastEvents c.outputFile (outcome c t).1 := by
  have hscan : e ∉ (scan s).events := fun he => hsource (source_of_mem_scanEvents he)
  have hblocks : e ∉ blockEvents c.filePath 1 (scan s).blocks :=
    fun he => hsource (source_of_mem_blockEvents he)
  rw [eventsOf_of_text h]
  simp [progressTo, hscan, hblocks, size_encode]

/-- Only a report that was saved is told to be saved. -/
theorem mem_eventsOf_saved_iff :
    (∃ path, .saved path ∈ eventsOf c t) ↔ ∃ summary, (outcome c t).1 = .ok summary := by
  rcases t.input_cases c.filePath with hno | ⟨loc, content, hnames, htext⟩ | ⟨loc, s, hnames⟩
  · simp [eventsOf_of_no_file hno, outcome_of_no_file hno]
  · simp [eventsOf_of_no_text hnames htext, outcome_of_no_text hnames htext]
  · have hmem (path : Path) :
        .saved path ∈ eventsOf c t ↔ .saved path ∈ lastEvents c.outputFile (outcome c t).1 := by
      rw [mem_eventsOf_of_text_iff hnames (by simp [Event.source])]
      simp
    simp only [hmem]
    rcases (outcome c t).1 with e | summary
    · simp [lastEvents]
    · simp [lastEvents]

end

/-! ### The whole of it -/

/-- **The account of an extraction.**  What is told says how far the extraction came, and
all of it: the first event is always told, the second one if there is an input file, and
the others if it is a text, of which every block is told in its turn, and an open block if
the number of marker lines is odd.  It is told that the report was saved exactly if it
was; and then the numbers of blocks and of bytes that are told are those of the summary
and of the output file. -/
theorem eventsOf_cases (c : Config) (t : Tree) :
    ((¬ ∃ loc content, t.NamesFile c.filePath loc content) →
      eventsOf c t = [.configuration c]) ∧
    (∀ loc content, t.NamesFile c.filePath loc content → (∀ s, content ≠ encode s) →
      eventsOf c t = [.configuration c, .extracting c.filePath]) ∧
    (∀ loc s, t.NamesFile c.filePath loc (encode s) → ∃ dropped saved,
      eventsOf c t = [.configuration c, .extracting c.filePath] ++ dropped
        ++ ((scan s).blocks.mapIdx fun i b =>
            .docstringFound (i + 1) b.startLine b.endLine c.filePath)
        ++ [.extracted (scan s).blocks.length, .saving c.outputFile,
            .writing (encode (Markdown.report s)).size c.outputFile] ++ saved ∧
      ((markerNumbersIn s).length % 2 = 1 → ∃ m, (markerNumbersIn s).getLast? = some m ∧
        dropped = [.blockDropped m ((lines s.toList).length - m + 1)]) ∧
      ((markerNumbersIn s).length % 2 = 0 → dropped = []) ∧
      (∀ summary, (outcome c t).1 = .ok summary → saved = [.saved c.outputFile]) ∧
      ∀ e, (outcome c t).1 = .error e → saved = []) ∧
    ((∃ path, .saved path ∈ eventsOf c t) ↔ ∃ summary, (outcome c t).1 = .ok summary) ∧
    ∀ summary, (outcome c t).1 = .ok summary →
      (∀ n, .extracted n ∈ eventsOf c t ↔ n = summary.docstrings) ∧
      ∃ out content, (outcome c t).2.NamesFile c.outputFile out content ∧
        ∀ b path, .writing b path ∈ eventsOf c t ↔ b = content.size ∧ path = c.outputFile := by
  refine ⟨eventsOf_of_no_file, fun loc content => eventsOf_of_no_text, ?_,
    mem_eventsOf_saved_iff, ?_⟩
  · intro loc s h
    refine ⟨(scan s).events, lastEvents c.outputFile (outcome c t).1, ?_, fun hodd => ?_,
      events_scan_of_even, ?_, ?_⟩
    · rw [eventsOf_of_text h, progressTo, blockEvents_eq_mapIdx, size_encode]
      simp
    · obtain ⟨m, hlast, -, hevents⟩ := events_scan_of_odd hodd
      exact ⟨m, hlast, hevents⟩
    · intro summary hsummary
      rw [hsummary, lastEvents]
    · intro e he
      rw [he, lastEvents]
  · intro summary hsummary
    rcases outcome_failed_or_saved c t with ⟨e, he, -⟩ | ⟨loc, s, out, h, hout, hsaved⟩
    · rw [he] at hsummary
      exact absurd hsummary (by simp)
    · -- the report of the text `s` is what the output file now holds
      rw [hsaved] at hsummary
      obtain rfl := Except.ok.inj hsummary
      refine ⟨fun n => ?_, out, encode (Markdown.report s), ?_, fun b path => ?_⟩
      · rw [mem_eventsOf_of_text_iff h (by simp [Event.source]), hsaved]
        simp [lastEvents]
      · rw [hsaved]
        exact Tree.namesFile_put_self hout _
      · rw [mem_eventsOf_of_text_iff h (by simp [Event.source]), hsaved]
        simp [lastEvents]

end Docstrings

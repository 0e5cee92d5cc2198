/-
Docstrings/Proofs/Extraction/Outcome.lean

What an extraction comes to, and what it leaves of the tree.

There are four ways for it to end, and which one it is hangs on three questions,
asked in this order: does the input path lead to a file, is that file a text, and
is there a place for the report.  Where one of the answers is no, the tree is left
as it was; where all are yes, one file changes, and that is the report.

That the input is missing is found out before it is read.  The question whether
the path leads to a file and the reading of it go through the same resolution, so
no scan ever fails because a file is missing.

* `outcome_of_no_file`, `outcome_of_no_text`, `outcome_of_no_target`,
  `outcome_of_target` — the four ways, as equations.
* `outcome_failed_or_saved` — an extraction fails whole or succeeds whole.
* `outcome_cases` — the whole of it, with the frame of the write.
-/
import Docstrings.Extraction
import Docstrings.Proofs.Files.Writing
import Docstrings.Proofs.Markdown.Rescan

namespace Docstrings

open Files Text

/-- What an extraction on a tree comes to and the tree that it leaves; its events are
left out. -/
def outcome (c : Config) (t : Tree) : Except ExtractError Summary × Tree :=
  let done := (extract Tree.access c).run t
  (done.1.result, done.2)

/-! ### The four ways to end -/

/-- A path leads to no file, or to one that is no text, or to a text. -/
theorem Files.Tree.input_cases (t : Tree) (path : Path) :
    (¬ ∃ loc content, t.NamesFile path loc content) ∨
    (∃ loc content, t.NamesFile path loc content ∧ ∀ s, content ≠ encode s) ∨
    ∃ loc s, t.NamesFile path loc (encode s) := by
  by_cases hfile : ∃ loc content, t.NamesFile path loc content
  · obtain ⟨loc, content, hnames⟩ := hfile
    by_cases htext : ∃ s, content = encode s
    · obtain ⟨s, rfl⟩ := htext
      exact .inr (.inr ⟨loc, s, hnames⟩)
    · exact .inr (.inl ⟨loc, content, hnames, not_exists.1 htext⟩)
  · exact .inl hfile

section

variable {c : Config} {t : Tree}

theorem outcome_of_no_file (h : ¬ ∃ loc content, t.NamesFile c.filePath loc content) :
    outcome c t = (.error (.inputMissing c.filePath), t) := by
  unfold outcome
  rw [extract_of_isFile_false (Tree.isFile_eq_false_iff.2 h)]

theorem outcome_of_no_text {loc : Location} {content : ByteArray}
    (h : t.NamesFile c.filePath loc content) (htext : ∀ s, content ≠ encode s) :
    outcome c t = (.error (.scan (.unreadable c.filePath .notText)), t) := by
  have hread : t.read c.filePath = .ok content := Tree.read_eq_ok_iff.2 ⟨loc, h⟩
  unfold outcome
  rw [extract_of_decode?_none hread (decode?_eq_none_iff.2 htext)]

theorem outcome_of_no_target {loc : Location} {s : String} {fault : Fault}
    (h : t.NamesFile c.filePath loc (encode s)) (hout : t.target c.outputFile = .error fault) :
    outcome c t = (.error (.write ⟨c.outputFile, fault⟩), t) := by
  have hread : t.read c.filePath = .ok (encode s) := Tree.read_eq_ok_iff.2 ⟨loc, h⟩
  unfold outcome
  rw [extract_of_decode?_some hread (decode?_encode s)]
  simp [Tree.write, hout]

theorem outcome_of_target {loc out : Location} {s : String}
    (h : t.NamesFile c.filePath loc (encode s)) (hout : t.target c.outputFile = .ok out) :
    outcome c t
      = (.ok ⟨(scan s).blocks.length, c.outputFile⟩,
          t.put out (.file (encode (Markdown.report s)))) := by
  have hread : t.read c.filePath = .ok (encode s) := Tree.read_eq_ok_iff.2 ⟨loc, h⟩
  unfold outcome
  rw [extract_of_decode?_some hread (decode?_encode s)]
  simp [Tree.write, hout, Markdown.report]

end

/-- An extraction either fails and leaves the tree as it was, or saves the report of a
text that it read; and it never fails because the file it reads is missing. -/
theorem outcome_failed_or_saved (c : Config) (t : Tree) :
    (∃ e, outcome c t = (.error e, t) ∧ ∀ path, e ≠ .scan (.notFound path)) ∨
    ∃ loc s out, t.NamesFile c.filePath loc (encode s) ∧ t.target c.outputFile = .ok out ∧
      outcome c t
        = (.ok ⟨(scan s).blocks.length, c.outputFile⟩,
            t.put out (.file (encode (Markdown.report s)))) := by
  rcases t.input_cases c.filePath with hno | ⟨loc, content, hnames, htext⟩ | ⟨loc, s, hnames⟩
  · exact .inl ⟨_, outcome_of_no_file hno, by simp⟩
  · exact .inl ⟨_, outcome_of_no_text hnames htext, by simp⟩
  · -- the input is a text; the rest hangs on the place for its report
    rcases hout : t.target c.outputFile with fault | out
    · exact .inl ⟨_, outcome_of_no_target hnames hout, by simp⟩
    · exact .inr ⟨loc, s, out, hnames, rfl, outcome_of_target hnames hout⟩

/-- Whatever fails leaves the tree as it was. -/
theorem tree_of_outcome_error {c : Config} {t : Tree} {e : ExtractError}
    (h : (outcome c t).1 = .error e) : (outcome c t).2 = t := by
  rcases outcome_failed_or_saved c t with ⟨e', he, -⟩ | ⟨loc, s, out, -, -, hsaved⟩
  · rw [he]
  · rw [hsaved] at h
    exact absurd h nofun

/-- What fails, and at which path: the input before anything is written, or else the
output. -/
theorem error_of_outcome {c : Config} {t : Tree} {e : ExtractError}
    (h : (outcome c t).1 = .error e) :
    e = .inputMissing c.filePath ∨ e = .scan (.unreadable c.filePath .notText) ∨
      ∃ fault, e = .write ⟨c.outputFile, fault⟩ := by
  rcases t.input_cases c.filePath with hno | ⟨loc, content, hnames, htext⟩ | ⟨loc, s, hnames⟩
  · rw [outcome_of_no_file hno] at h
    exact .inl (Except.error.inj h).symm
  · rw [outcome_of_no_text hnames htext] at h
    exact .inr (.inl (Except.error.inj h).symm)
  · rcases hout : t.target c.outputFile with fault | out
    · rw [outcome_of_no_target hnames hout] at h
      exact .inr (.inr ⟨fault, (Except.error.inj h).symm⟩)
    · rw [outcome_of_target hnames hout] at h
      exact absurd h nofun

/-! ### The whole of it -/

/-- **What an extraction comes to.**  Whatever fails leaves the tree as it was, and
names the path and the cause; an extraction that succeeds leaves the report of the
input in the output file and all else as it was. -/
theorem outcome_cases (t : Tree) (c : Config) :
    ((¬ ∃ loc content, t.NamesFile c.filePath loc content) →
      outcome c t = (.error (.inputMissing c.filePath), t)) ∧
    (∀ loc content, t.NamesFile c.filePath loc content → (∀ s, content ≠ encode s) →
      outcome c t = (.error (.scan (.unreadable c.filePath .notText)), t)) ∧
    (∀ loc s fault, t.NamesFile c.filePath loc (encode s) →
      (t.write c.outputFile (encode (Markdown.report s))).1 = .error fault →
      outcome c t = (.error (.write ⟨c.outputFile, fault⟩), t)) ∧
    (∀ loc s, t.NamesFile c.filePath loc (encode s) →
      (t.write c.outputFile (encode (Markdown.report s))).1 = .ok () →
      ∃ out after, outcome c t = (.ok ⟨(scan s).blocks.length, c.outputFile⟩, after) ∧
        after.NamesFile c.outputFile out (encode (Markdown.report s)) ∧
        (∀ other, other ≠ out → after.node? other = t.node? other) ∧
        (∀ dir, after.node? dir = some .directory ↔ t.node? dir = some .directory) ∧
        after.workingDirectory = t.workingDirectory) ∧
    ∀ path, (outcome c t).1 ≠ .error (.scan (.notFound path)) := by
  refine ⟨outcome_of_no_file, fun loc content => outcome_of_no_text, ?_, ?_, ?_⟩
  · intro loc s fault h hwrite
    exact outcome_of_no_target h (Tree.write_eq_error_iff.1 hwrite)
  · intro loc s h hwrite
    -- a write that succeeds has a target, and the tree grows by the file there
    obtain ⟨out, hout⟩ := Tree.write_eq_ok_iff.1 hwrite
    have hgrows := Tree.grows_put_of_target hout (encode (Markdown.report s))
    refine ⟨out, _, outcome_of_target h hout, Tree.namesFile_put_self hout _, ?_,
      hgrows.directory, hgrows.workingDirectory⟩
    intro other hother
    exact Tree.node?_put_of_ne t _ hother
  · intro path
    rcases outcome_failed_or_saved c t with ⟨e, he, hfound⟩ | ⟨loc, s, out, -, -, hsaved⟩
    · rw [he]
      intro h
      exact hfound path (Except.error.inj h)
    · rw [hsaved]
      exact nofun

end Docstrings

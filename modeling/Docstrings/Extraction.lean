/-
Docstrings/Extraction.lean

The extraction: scan the input file, render the report, save it.

Design.  An extraction asks its surroundings three things: whether the input is
a file, what the file holds, and to write the report.  All between the answers is
a pure function of them: `scanBytes` says what a file's content is scanned as,
and `savedAs` what the attempt to write the report comes to.  What happened on the
way is returned beside the result, as the list of events, oldest first; nothing is
printed here.

The three questions go through an `Access` record, so the same `extract` runs on
the files of the machine and on a tree in memory.

* `extract_of_isFile_false`, `extract_of_decode?_none`, `extract_of_decode?_some` —
  what an extraction does to a tree, in its three cases.
-/
import Docstrings.Files.Access
import Docstrings.Log.Event
import Docstrings.Markdown.Report
import Docstrings.Scan
import Docstrings.Text.Encoding

namespace Docstrings

open Files
open Log (Event)

/-! ### Results with their events -/

/-- A result, and the events on the way to it. -/
structure Traced (ε α : Type) where
  /-- The events, oldest first. -/
  events : List Event
  result : Except ε α

/-! ### Scanning a file -/

/-- The event of a block that was left open, if there was one. -/
def Scan.events (s : Scan) : List Event :=
  match s.unclosed with
  | none => []
  | some o => [.blockDropped o.startLine o.lineCount]

/-- The events of the blocks of a file, of which the first has number `n`. -/
def blockEvents (path : Path) (n : Nat) : List Block → List Event
  | [] => []
  | b :: bs => .docstringFound n b.startLine b.endLine path :: blockEvents path (n + 1) bs

/-- What the answer to reading a file is scanned as. -/
def scanBytes (path : Path) : Except Fault ByteArray → Traced ScanError (List Block)
  | .error fault => ⟨[], .error (.ofFault path fault)⟩
  | .ok bytes =>
    match Text.decode? bytes with
    | none => ⟨[], .error (.ofFault path .notText)⟩
    | some content =>
      ⟨(scan content).events ++ blockEvents path 1 (scan content).blocks,
        .ok (scan content).blocks⟩

/-- Scan a file. -/
def scanFile {m : Type → Type} [Monad m] (files : Access m) (path : Path) :
    m (Traced ScanError (List Block)) := do
  return scanBytes path (← files.read path)

/-! ### Saving a report -/

/-- What the answer to writing a report comes to. -/
def savedAs (blocks : List Block) (path : Path) : Except Fault Unit → Traced WriteError Unit
  | .error fault => ⟨[.writing (Text.byteCount (Markdown.render blocks)) path], .error ⟨path, fault⟩⟩
  | .ok () => ⟨[.writing (Text.byteCount (Markdown.render blocks)) path], .ok ()⟩

/-- Save the report of some blocks. -/
def writeReport {m : Type → Type} [Monad m] (files : Access m) (blocks : List Block)
    (path : Path) : m (Traced WriteError Unit) := do
  return savedAs blocks path (← files.write path (Text.encode (Markdown.render blocks)))

/-! ### The extraction -/

/-- What an extraction came to. -/
structure Summary where
  /-- How many docstrings were saved. -/
  docstrings : Nat
  /-- Where they were saved. -/
  outputFile : Path
  deriving DecidableEq

/-- Extract the docstrings of one file into another. -/
def extract {m : Type → Type} [Monad m] (files : Access m) (c : Config) :
    m (Traced ExtractError Summary) := do
  if ← files.isFile c.filePath then
    let scanned ← scanFile files c.filePath
    let begun := .configuration c :: .extracting c.filePath :: scanned.events
    match scanned.result with
    | .error e => return ⟨begun, .error (.scan e)⟩
    | .ok blocks =>
      let written ← writeReport files blocks c.outputFile
      let done := begun ++ [.extracted blocks.length, .saving c.outputFile] ++ written.events
      match written.result with
      | .error e => return ⟨done, .error (.write e)⟩
      | .ok () => return ⟨done ++ [.saved c.outputFile], .ok ⟨blocks.length, c.outputFile⟩⟩
  else
    return ⟨[.configuration c], .error (.inputMissing c.filePath)⟩

/-! ### The extraction on a tree -/

/-- Without an input file, nothing is read or written. -/
theorem extract_of_isFile_false {t : Tree} {c : Config} (h : t.isFile c.filePath = false) :
    (extract Tree.access c).run t
      = (⟨[.configuration c], .error (.inputMissing c.filePath)⟩, t) := by
  simp [extract, h]
  rfl

/-- An input file that is not a text is read, and nothing is written. -/
theorem extract_of_decode?_none {t : Tree} {c : Config} {bytes : ByteArray}
    (hread : t.read c.filePath = .ok bytes) (htext : Text.decode? bytes = none) :
    (extract Tree.access c).run t
      = (⟨[.configuration c, .extracting c.filePath],
          .error (.scan (.unreadable c.filePath .notText))⟩, t) := by
  have hfile : t.isFile c.filePath = true := Tree.isFile_iff.2 ⟨bytes, hread⟩
  simp [extract, scanFile, hfile, hread, scanBytes, htext, ScanError.ofFault]
  rfl

/-- An input file that is a text is scanned, and its report written. -/
theorem extract_of_decode?_some {t : Tree} {c : Config} {bytes : ByteArray} {content : String}
    (hread : t.read c.filePath = .ok bytes) (htext : Text.decode? bytes = some content) :
    (extract Tree.access c).run t
      = let blocks := (scan content).blocks
        let report := Markdown.render blocks
        let events := [.configuration c, .extracting c.filePath] ++ (scan content).events
          ++ blockEvents c.filePath 1 blocks
          ++ [.extracted blocks.length, .saving c.outputFile,
            .writing (Text.byteCount report) c.outputFile]
        let written := t.write c.outputFile (Text.encode report)
        (match written.1 with
          | .error fault => ⟨events, .error (.write ⟨c.outputFile, fault⟩)⟩
          | .ok () => ⟨events ++ [.saved c.outputFile], .ok ⟨blocks.length, c.outputFile⟩⟩,
          written.2) := by
  have hfile : t.isFile c.filePath = true := Tree.isFile_iff.2 ⟨bytes, hread⟩
  rcases hwrite : t.write c.outputFile (Text.encode (Markdown.render (scan content).blocks))
    with ⟨fault | ⟨⟩, t'⟩
  · simp [extract, scanFile, writeReport, hfile, hread, scanBytes, htext, hwrite, savedAs]
    rfl
  · simp [extract, scanFile, writeReport, hfile, hread, scanBytes, htext, hwrite, savedAs]
    rfl

end Docstrings

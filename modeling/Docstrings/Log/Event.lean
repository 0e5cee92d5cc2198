/-
Docstrings/Log/Event.lean

Events: what an extraction tells about its progress.

An event is a fact, with the numbers and paths that belong to it.  Its level, the
part of the program that it comes from and its wording are functions of it.

A line of the log starts with the time at which the event was told.  That time is not
in the event, and no function here can give it, so `line` is the line behind it.
-/
import Docstrings.Log.Level
import Docstrings.Config
import Docstrings.Failure

namespace Docstrings

namespace Log

/-! ### Sources -/

/-- The parts of the program that tell events. -/
inductive Source where
  | scanner
  | markdown
  | extractor
  deriving DecidableEq

/-- The name by which a part of the program is spoken of in log settings. -/
def Source.name : Source → String
  | scanner => "docstring_scanner"
  | markdown => "docstring_markdown"
  | extractor => "extract_docstrings"

/-! ### Events -/

/-- A fact about the progress of an extraction. -/
inductive Event where
  /-- What the extraction was asked to do. -/
  | configuration (config : Config)
  /-- The input file is about to be scanned. -/
  | extracting (path : Path)
  /-- The block opened at a line was not closed; so many lines of it were seen. -/
  | blockDropped (startLine lineCount : Nat)
  /-- The place of the docstring with a number. -/
  | docstringFound (number startLine endLine : Nat) (path : Path)
  /-- How many docstrings the input file holds. -/
  | extracted (count : Nat)
  /-- The report is about to be saved. -/
  | saving (path : Path)
  /-- So many bytes are about to be written. -/
  | writing (bytes : Nat) (path : Path)
  /-- The report was saved. -/
  | saved (path : Path)
  /-- The extraction failed. -/
  | failed (e : ExtractError)
  deriving DecidableEq

namespace Event

/-- The level of an event. -/
def level : Event → Level
  | configuration _ | blockDropped .. | docstringFound .. | writing .. => .debug
  | extracting _ | extracted _ | saving _ | saved _ => .info
  | failed _ => .error

/-- Only a failure is told as an error. -/
theorem level_eq_error_iff {event : Event} : event.level = .error ↔ ∃ e, event = failed e := by
  cases event <;> simp [level]

/-- The part of the program that an event comes from. -/
def source : Event → Source
  | blockDropped .. | docstringFound .. => .scanner
  | writing .. => .markdown
  | configuration _ | extracting _ | extracted _ | saving _ | saved _ | failed _ => .extractor

/-- The wording of an event. -/
def message : Event → String
  | configuration config => "Configuration: " ++ config.description
  | extracting path => "Extracting docstrings from " ++ path
  | blockDropped startLine lineCount =>
    "Dropping unterminated block opened at line " ++ toString startLine
      ++ " (" ++ toString lineCount ++ " line(s))"
  | docstringFound number startLine endLine path =>
    "Docstring " ++ toString number ++ " spans lines " ++ toString startLine
      ++ "-" ++ toString endLine ++ " of " ++ path
  | extracted count => "Extracted " ++ toString count ++ " docstrings"
  | saving path => "Saving docstrings to " ++ path
  | writing bytes path => "Writing " ++ toString bytes ++ " byte(s) to " ++ path
  | saved path => "Docstrings successfully saved to " ++ path
  | failed e => e.message

/-- The width of the column of levels. -/
def levelWidth : Nat := 5

/-- The line of the log for an event, without the time in front: its level, flush to
the right, and its wording. -/
def line (e : Event) : String :=
  String.ofList (List.replicate (levelWidth - e.level.label.length) ' ') ++ e.level.label
    ++ " " ++ e.message ++ "\n"

end Event

end Log

end Docstrings

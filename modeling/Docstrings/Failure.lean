/-
Docstrings/Failure.lean

How an extraction can fail: at the input file, while scanning it, or while saving
the report.  Each failure names the path it is about, and each type has a single
function for its wording.

* `ScanError.ofFault_eq_notFound_iff` — only a missing file is told apart from
  the other faults.
* `ExtractError.path_isInfix_message` — the path can be read in the wording.
-/
import Docstrings.Files.Path

namespace Docstrings

open Files

/-! ### Parts of a wording -/

theorem isInfix_append_of_isInfix_left {path : List Char} {a b : String}
    (h : path <:+: a.toList) : path <:+: (a ++ b).toList := by
  rw [String.toList_append]
  exact h.trans (List.prefix_append _ _).isInfix

theorem isInfix_append_of_isInfix_right {path : List Char} {a b : String}
    (h : path <:+: b.toList) : path <:+: (a ++ b).toList := by
  rw [String.toList_append]
  exact h.trans (List.suffix_append _ _).isInfix

/-! ### Scanning a file -/

/-- Why a file could not be scanned. -/
inductive ScanError where
  /-- The file is not there. -/
  | notFound (path : Path)
  /-- The file is there, but could not be read as a text. -/
  | unreadable (path : Path) (fault : Fault)
  deriving DecidableEq

namespace ScanError

/-- The scan error for a fault in reading the file. -/
def ofFault (path : Path) : Fault → ScanError
  | .missing => notFound path
  | fault => unreadable path fault

/-- The path that a scan error is about. -/
def path : ScanError → Path
  | notFound path => path
  | unreadable path _ => path

/-- The wording of a scan error. -/
def message : ScanError → String
  | notFound path => "File not found: " ++ path
  | unreadable path fault => "Error reading " ++ path ++ ": " ++ fault.message

theorem ofFault_eq_notFound_iff {p q : Path} {fault : Fault} :
    ofFault p fault = notFound q ↔ fault = .missing ∧ p = q := by
  cases fault <;> simp [ofFault]

theorem path_isInfix_message (e : ScanError) : e.path.toList <:+: e.message.toList := by
  cases e with
  | notFound path => exact isInfix_append_of_isInfix_right (List.infix_refl _)
  | unreadable path fault =>
    exact isInfix_append_of_isInfix_left (isInfix_append_of_isInfix_left
      (isInfix_append_of_isInfix_right (List.infix_refl _)))

end ScanError

/-! ### Saving a report -/

/-- Why a report could not be saved. -/
structure WriteError where
  path : Path
  fault : Fault
  deriving DecidableEq

/-- The wording of a write error. -/
def WriteError.message (e : WriteError) : String :=
  "Error writing " ++ e.path ++ ": " ++ e.fault.message

theorem WriteError.path_isInfix_message (e : WriteError) :
    e.path.toList <:+: e.message.toList :=
  isInfix_append_of_isInfix_left (isInfix_append_of_isInfix_left
    (isInfix_append_of_isInfix_right (List.infix_refl _)))

/-! ### The whole extraction -/

/-- Why an extraction failed. -/
inductive ExtractError where
  /-- The input path names no file. -/
  | inputMissing (path : Path)
  /-- The input file could not be scanned. -/
  | scan (e : ScanError)
  /-- The report could not be saved. -/
  | write (e : WriteError)
  deriving DecidableEq

namespace ExtractError

/-- The path that a failure is about. -/
def path : ExtractError → Path
  | inputMissing path => path
  | scan e => e.path
  | write e => e.path

/-- The wording of a failure. -/
def message : ExtractError → String
  | inputMissing path => "The specified file does not exist: " ++ path
  | scan e => "An error occurred while extracting docstrings: " ++ e.message
  | write e => "An error occurred while saving docstrings: " ++ e.message

/-- Every failure names the path that it is about. -/
theorem path_isInfix_message (e : ExtractError) : e.path.toList <:+: e.message.toList := by
  cases e with
  | inputMissing path => exact isInfix_append_of_isInfix_right (List.infix_refl _)
  | scan e => exact isInfix_append_of_isInfix_right e.path_isInfix_message
  | write e => exact isInfix_append_of_isInfix_right e.path_isInfix_message

end ExtractError

end Docstrings

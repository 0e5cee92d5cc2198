/-
Docstrings/Files/Fault.lean

Faults: the reasons for which a file cannot be read or written.

A fault is a cause, not a text; `Fault.message` is the one place that words it,
with the number that the operating system gives the cause where it has one.
-/

namespace Docstrings

namespace Files

/-- Why a file could not be read or written. -/
inductive Fault where
  /-- Something on the path does not exist. -/
  | missing
  /-- Something that is not a directory is used as one. -/
  | notDirectory
  /-- A directory stands where a file is wanted. -/
  | isDirectory
  /-- A name on the path, or the whole path, is longer than allowed. -/
  | nameTooLong
  /-- The path holds a NUL character. -/
  | nulInPath
  /-- The content of the file is not a text. -/
  | notText
  /-- Any other cause, in the words of the system. -/
  | other (reason : String)
  deriving DecidableEq

/-- The wording of a fault. -/
def Fault.message : Fault → String
  | missing => "No such file or directory (os error 2)"
  | notDirectory => "Not a directory (os error 20)"
  | isDirectory => "Is a directory (os error 21)"
  | nameTooLong => "File name too long (os error 36)"
  | nulInPath => "file name contained an unexpected NUL byte"
  | notText => "stream did not contain valid UTF-8"
  | other reason => reason

end Files

end Docstrings

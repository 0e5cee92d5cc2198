/-
Docstrings/Main.lean

The command-line program, on the files of the machine.

This is the only module that does input and output: it asks the machine what
`Access` asks for, hands over the command line and the log setting, and prints
what `Program.run` says.  It prints the lines of the log without their times.

Whether a path names a file is asked of the path, not of the file: a file that may
not be read is still a file, and reading it fails later, with a reason.  What the
machine tells of a path is whether something is there, and whether that is a
directory.  So a device or a pipe passes for a file here, though it is none.
-/
import Docstrings.Program

namespace Docstrings

open Files

/-- The variable of the environment that holds the log setting. -/
def settingVariable : String := "RUST_LOG"

namespace Host

/-- The fault that an error of the machine stands for. -/
def faultOf : IO.Error → Fault
  | .noFileOrDirectory .. => .missing
  | .inappropriateType _ code reason => if code = 20 then .notDirectory
    else if code = 21 then .isDirectory else .other reason
  | .resourceExhausted _ code reason | .invalidArgument _ code reason =>
    if code = 36 then .nameTooLong else .other reason
  | .permissionDenied _ code reason =>
    .other (if code = 13 then "Permission denied (os error 13)" else reason)
  | e => .other (toString e)

/-- The answer to an action, with its error as a fault. -/
def answer {α : Type} (action : IO α) : IO (Except Fault α) := do
  match ← action.toBaseIO with
  | .ok value => return .ok value
  | .error e => return .error (faultOf e)

/-- An action on a path, unless the path cannot be handed to the machine. -/
def onPath {α : Type} (path : Path) (action : IO α) : IO (Except Fault α) :=
  if '\x00' ∈ path.toList then return .error .nulInPath else answer action

/-- Whether the path leads anywhere.  Nothing is opened. -/
def leads (path : Path) : IO Bool := do
  match ← onPath path (IO.FS.realPath path) with
  | .ok _ => return true
  | .error _ => return false

/-- Whether the path leads to something that is no directory: a path that ends in a
slash leads to directories only. -/
def isFile (path : Path) : IO Bool := do
  return (← leads path) && !(← leads (path ++ "/"))

/-- Access to the files of the machine. -/
def access : Access IO where
  isFile path := isFile path
  read path := onPath path (IO.FS.readBinFile path)
  write path content := onPath path (IO.FS.writeBinFile path content)

end Host

end Docstrings

/-- Run the program. -/
def main (words : List String) : IO UInt32 := do
  let setting? ← IO.getEnv Docstrings.settingVariable
  let outcome ← Docstrings.Program.run Docstrings.Host.access words setting?
  (← IO.getStdout).putStr outcome.stdout
  (← IO.getStderr).putStr outcome.stderr
  return UInt32.ofNat outcome.exitCode

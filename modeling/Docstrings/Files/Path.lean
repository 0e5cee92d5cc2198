/-
Docstrings/Files/Path.lean

Paths and the routes they spell.

A path is a text.  Read as a route it is a sequence of steps from a directory:
stay, go up, or go to the entry of a given name.  Slashes part the steps, and
several slashes in a row part no more than one does.  A slash at the end of the
path adds no step, but says that the last step has to end at a directory; two
paths with the same steps can differ in that.

* `Route.ofPath_eq_ok_iff` — which paths spell a route: those without a NUL
  character that are neither empty nor too long.
-/
import Docstrings.Files.Fault

namespace Docstrings

/-- A path, as the user wrote it. -/
abbrev Path := String

namespace Files

/-! ### Steps -/

/-- The longest name of a directory entry, in bytes. -/
def nameLimit : Nat := 255

/-- The longest path, in bytes. -/
def pathLimit : Nat := 4095

/-- One step along a path. -/
inductive Step where
  /-- Stay in the directory. -/
  | here
  /-- Go to the directory above. -/
  | up
  /-- Go to the entry of this name. -/
  | into (name : String)
  deriving DecidableEq

/-- The step that a part of a path between slashes stands for. -/
def Step.ofName (name : List Char) : Step :=
  if name = ['.'] then here
  else if name = ['.', '.'] then up
  else into (String.ofList name)

/-- Whether a name is too long for a directory entry. -/
def tooLong (name : String) : Bool := nameLimit < name.utf8ByteSize

/-! ### Routes -/

/-- What a path says about where to go. -/
structure Route where
  /-- Whether the route starts at the root, and not at the working directory. -/
  absolute : Bool
  steps : List Step
  /-- Whether the path ends in a slash. -/
  slashAtEnd : Bool
  deriving DecidableEq

namespace Route

/-- The route spelled by the characters of a path. -/
def ofChars (cs : List Char) : Route where
  absolute := cs.head? = some '/'
  steps := ((cs.splitOn '/').filter (!·.isEmpty)).map Step.ofName
  slashAtEnd := cs.getLast? = some '/'

/-- The route that a path spells. -/
def ofPath (path : Path) : Except Fault Route :=
  if '\x00' ∈ path.toList then .error .nulInPath
  else if path = "" then .error .missing
  else if pathLimit < path.utf8ByteSize then .error .nameTooLong
  else .ok (ofChars path.toList)

/-- The steps to what a path names, when it is read: with a slash at its end, it
names a directory, as if it ended in a step that stays there. -/
def stepsToRead (r : Route) : List Step := if r.slashAtEnd then r.steps ++ [.here] else r.steps

theorem ofPath_eq_ok_iff {path : Path} {r : Route} :
    ofPath path = .ok r ↔ '\x00' ∉ path.toList ∧ path ≠ "" ∧
      path.utf8ByteSize ≤ pathLimit ∧ r = ofChars path.toList := by
  unfold ofPath
  by_cases hnul : '\x00' ∈ path.toList
  · simp [hnul]
  · by_cases hempty : path = ""
    · simp [hempty]
    · by_cases hlong : pathLimit < path.utf8ByteSize
      · simp [hnul, hempty, hlong, Nat.not_le.2 hlong]
      · simp [hnul, hempty, hlong, Nat.le_of_not_lt hlong, eq_comm]

end Route

end Files

end Docstrings

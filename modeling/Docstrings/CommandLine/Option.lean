/-
Docstrings/CommandLine/Option.lean

The options of the command line, and the command that takes them.

Two options name a path and want a value; three are switches.  The command comes
in two kinds: with both path options required, as users get it, and with all
options left to choice.
-/

namespace Docstrings

namespace CommandLine

/-! ### Options -/

/-- An option whose value is a path. -/
inductive PathOption where
  | filePath
  | outputFile
  deriving DecidableEq

namespace PathOption

/-- All path options, in the order in which they are shown. -/
def all : List PathOption := [filePath, outputFile]

/-- The name of the option, after its two dashes. -/
def name : PathOption → String
  | filePath => "file-path"
  | outputFile => "output-file"

/-- What the value of the option is called. -/
def valueName : PathOption → String
  | filePath => "file_path"
  | outputFile => "output_file"

/-- The option with its value, as it is shown to the user. -/
def usage (o : PathOption) : String := "--" ++ o.name ++ " <" ++ o.valueName ++ ">"

theorem mem_all (o : PathOption) : o ∈ all := by
  cases o <;> simp [all]

end PathOption

/-- An option of the command line. -/
inductive Opt where
  | path (o : PathOption)
  | verbose
  | help
  | version
  deriving DecidableEq

namespace Opt

/-- All options, in the order in which they are shown. -/
def all : List Opt := [path .filePath, path .outputFile, verbose, help, version]

/-- The name of an option, after its two dashes. -/
def name : Opt → String
  | path o => o.name
  | verbose => "verbose"
  | help => "help"
  | version => "version"

/-- An option as it is shown to the user. -/
def usage : Opt → String
  | path o => o.usage
  | o => "--" ++ o.name

/-- The option of a name. -/
def ofName? (name : List Char) : Option Opt := all.find? fun o => o.name.toList == name

theorem mem_all (o : Opt) : o ∈ all := by
  rcases o with (_ | _) | _ | _ | _ <;> simp [all]

theorem ofName?_name (o : Opt) : ofName? o.name.toList = some o := by
  rcases o with (_ | _) | _ | _ | _ <;> decide

theorem ofName?_eq_some_iff {name : List Char} {o : Opt} :
    ofName? name = some o ↔ name = o.name.toList := by
  constructor
  · intro h
    have hfound := List.find?_some h
    exact (beq_iff_eq.1 hfound).symm
  · rintro rfl
    exact ofName?_name o

end Opt

/-! ### Commands -/

/-- What a command line has to hold. -/
structure Command where
  /-- Whether the path options have to be given. -/
  pathsRequired : Bool
  deriving DecidableEq

namespace Command

/-- The command as users get it. -/
def standard : Command := ⟨true⟩

/-- The command with all options left to choice. -/
def lenient : Command := ⟨false⟩

end Command

/-- The name of the tool. -/
def toolName : String := "Scan-Docstring-Comment-Extractor"

/-- The version of the tool. -/
def toolVersion : String := "1.0"

/-- The name under which the program is run. -/
def programName : String := "extract_docstrings"

end CommandLine

end Docstrings

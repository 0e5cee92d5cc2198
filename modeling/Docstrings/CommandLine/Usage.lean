/-
Docstrings/CommandLine/Usage.lean

Why the program stops at its command line, and what it then prints.

The program stops because the user asks for help or for the version, which goes
to the standard output, or because the command line is wrong, which goes to the
standard error.  A usage error is a cause, with the options that had been given
when it arose, where the text shows them.  The cause keeps the user's words as they
were; the text shows what is visible of them.  `Stop.text` is the text as a whole,
`Stop.printed` what a stream shows of it; they differ only in words that hold
control sequences.

* `isError_iff` — what tells the two kinds of stop apart.
-/
import Docstrings.CommandLine.Option
import Docstrings.Text.ControlSequence

namespace Docstrings

namespace CommandLine

/-! ### Causes -/

/-- What is wrong with a command line. -/
inductive UsageError where
  /-- A path option has no value, or an empty one. -/
  | valueMissing (o : PathOption)
  /-- An option is given twice. -/
  | repeated (o : Opt)
  /-- A switch is given a value. -/
  | valueUnwanted (o : Opt) (value : String) (given : List Opt)
  /-- A word is no option, and no value of one.  The tip is an option that looks
  like it. -/
  | unknownArgument (word : String) (tip? : Option Opt) (given : List Opt)
  /-- Required options are not given. -/
  | optionsMissing (missing : List PathOption) (given : List Opt)
  deriving DecidableEq

/-- Why the program stops at its command line. -/
inductive Stop where
  | help
  | version
  | usage (e : UsageError)
  deriving DecidableEq

/-! ### The usage line -/

/-- The path options, as they are shown where they are required. -/
def requiredOptions : String := " ".intercalate (PathOption.all.map PathOption.usage)

/-- Whether the option is one of those that name a path. -/
def Opt.isPath : Opt → Bool
  | path _ => true
  | _ => false

/-- The usage line that shows what may be given. -/
def usageLine (cmd : Command) : String :=
  "Usage: " ++ programName ++ " [OPTIONS]"
    ++ (if cmd.pathsRequired then " " ++ requiredOptions else "")

/-- The usage line that shows what was given, beside what is required. -/
def usageLineWith (cmd : Command) (given : List Opt) : String :=
  let shown := if cmd.pathsRequired then given.filter (!·.isPath) else given
  "Usage: " ++ programName ++ (if cmd.pathsRequired then " " ++ requiredOptions else "")
    ++ String.join (shown.map fun o => " " ++ o.usage)

/-- The usage line for options that were given, if there were any. -/
def usageLineFor (cmd : Command) (given : List Opt) : String :=
  if given = [] then usageLine cmd else usageLineWith cmd given

/-! ### Texts -/

/-- The help text. -/
def helpText (cmd : Command) : String :=
  "Extracts and formats code docstrings into a uniform Markdown style.\n\n"
    ++ usageLine cmd ++ "\n\n"
    ++ "Options:\n"
    ++ "      --file-path <file_path>      Path to the Python file containing the docstrings to be extracted\n"
    ++ "      --output-file <output_file>  Path to the Markdown file where the extracted docstrings will be saved\n"
    ++ "      --verbose                    Enable verbose logging\n"
    ++ "  -h, --help                       Print help\n"
    ++ "  -V, --version                    Print version\n"

/-- The version text. -/
def versionText : String := toolName ++ " " ++ toolVersion ++ "\n"

namespace UsageError

/-- What is wrong. -/
def reason (i : Text.Interruption) : UsageError → String
  | valueMissing o => "a value is required for '" ++ o.usage ++ "' but none was supplied"
  | repeated o => "the argument '" ++ o.usage ++ "' cannot be used multiple times"
  | valueUnwanted o value _ =>
    "unexpected value '" ++ Text.visible i value ++ "' for '" ++ o.usage
      ++ "' found; no more were expected"
  | unknownArgument word _ _ => "unexpected argument '" ++ Text.visible i word ++ "' found"
  | optionsMissing missing _ =>
    "the following required arguments were not provided:"
      ++ String.join (missing.map fun o => "\n  " ++ o.usage)

/-- The tip that helps to mend it, if there is one. -/
def tip? : UsageError → Option Opt
  | unknownArgument _ tip? _ => tip?
  | _ => none

/-- The usage line shown with the error, if there is one. -/
def usage? (cmd : Command) : UsageError → Option String
  | valueMissing _ => none
  | repeated _ => some (usageLine cmd)
  | valueUnwanted _ _ given => some (usageLineFor cmd given)
  | unknownArgument _ _ given => some (usageLineFor cmd given)
  | optionsMissing _ given => some (usageLineWith cmd given)

/-- The text of an error. -/
def text (cmd : Command) (i : Text.Interruption) (e : UsageError) : String :=
  "error: " ++ e.reason i
    ++ (match e.tip? with
      | none => ""
      | some o => "\n\n  tip: a similar argument exists: '--" ++ o.name ++ "'")
    ++ (match e.usage? cmd with
      | none => ""
      | some line => "\n\n" ++ line)
    ++ "\n\nFor more information, try '--help'.\n"

end UsageError

namespace Stop

/-- Whether the program stops because something is wrong. -/
def isError : Stop → Bool
  | usage _ => true
  | _ => false

/-- What the user is told when the program stops. -/
def message (cmd : Command) (i : Text.Interruption) : Stop → String
  | help => helpText cmd
  | version => versionText
  | usage e => e.text cmd i

/-- The text of what the user is told. -/
def text (cmd : Command) (s : Stop) : String := s.message cmd .ends

/-- What is printed when the program stops. -/
def printed (cmd : Command) (s : Stop) : String := s.message cmd .pauses

/-- The exit code of a program that stops. -/
def exitCode (s : Stop) : Nat := if s.isError then 2 else 0

theorem isError_iff {s : Stop} : s.isError = true ↔ ∃ e, s = usage e := by
  cases s <;> simp [isError]

theorem exitCode_eq_zero_iff {s : Stop} : s.exitCode = 0 ↔ s = help ∨ s = version := by
  cases s <;> simp [exitCode, isError]

end Stop

end CommandLine

end Docstrings

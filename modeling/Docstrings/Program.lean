/-
Docstrings/Program.lean

The program: from its command line and the log setting to its exit code, what it
prints, and the files it leaves.

Design.  Reading the command line touches no file, so a program that stops there
changes nothing.  Otherwise the extraction runs, and its events are shown as the
log filter lets through, a failure as the last of them.  The standard output is
for help and version only.

* `run_of_stop` — a stop at the command line leaves all files as they were.
* `run_of_config` — what the program prints after an extraction.
-/
import Docstrings.CommandLine.Parser
import Docstrings.Extraction
import Docstrings.Log.Filter

namespace Docstrings

open CommandLine Files
open Log (Event Filter)

/-- What a run of the program comes to, files apart. -/
structure Outcome where
  exitCode : Nat
  /-- All that is printed on the standard output. -/
  stdout : String
  /-- All that is printed on the standard error. -/
  stderr : String
  deriving DecidableEq

namespace Program

/-! ### Outcomes -/

/-- The outcome of a stop at the command line. -/
def stopped (s : Stop) : Outcome :=
  if s.isError then ⟨s.exitCode, "", s.printed .standard⟩
  else ⟨s.exitCode, s.printed .standard, ""⟩

/-- The outcome if the command line gives no configuration. -/
def misconfigured (o : PathOption) : Outcome := ⟨1, "", "Error: " ++ o.absence ++ "\n"⟩

/-- All events of an extraction, its failure the last of them. -/
def eventsShown (r : Traced ExtractError Summary) : List Event :=
  match r.result with
  | .ok _ => r.events
  | .error e => r.events ++ [.failed e]

/-- The exit code after an extraction. -/
def exitCodeOf : Except ExtractError Summary → Nat
  | .ok _ => 0
  | .error _ => 1

/-- The outcome after an extraction. -/
def extracted (f : Filter) (r : Traced ExtractError Summary) : Outcome :=
  ⟨exitCodeOf r.result, "", f.render (eventsShown r)⟩

/-! ### Running -/

/-- Run the program on the words of its command line and the log setting. -/
def run {m : Type → Type} [Monad m] (files : Access m) (words : List String)
    (setting? : Option String) : m Outcome :=
  match parse .standard words with
  | .error stop => return stopped stop
  | .ok found =>
    match found.toConfig with
    | .error o => return misconfigured o
    | .ok c => return extracted (.ofSetting c.verbose setting?) (← extract files c)

theorem run_of_stop {t : Tree} {words : List String} {setting? : Option String} {stop : Stop}
    (h : parse .standard words = .error stop) :
    (run Tree.access words setting?).run t = (stopped stop, t) := by
  simp [run, h]
  rfl

theorem run_of_config {t : Tree} {words : List String} {setting? : Option String}
    {found : Matches} {c : Config} (h : parse .standard words = .ok found)
    (hc : found.toConfig = .ok c) :
    (run Tree.access words setting?).run t
      = let after := (extract Tree.access c).run t
        (extracted (.ofSetting c.verbose setting?) after.1, after.2) := by
  simp [run, h, hc]
  rfl

end Program

end Docstrings

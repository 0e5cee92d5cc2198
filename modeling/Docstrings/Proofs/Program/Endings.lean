/-
Docstrings/Proofs/Program/Endings.lean

How the program ends.

There are four ways: the user is told what was asked for, the command line is
refused, the report is saved, or the extraction fails.  Which one it is can be seen
from the exit code and the standard output; only where the report is saved has the
tree changed.

What is told of an extraction on the standard error is the events of the extraction,
and the failure after them if there is one, as far as the log filter lets them
through.  An extraction does not tell of its failure itself, so the failure is told
once, and last.  Each event is told in a line of its own: its level, in a column five
characters wide, and then what it says.

* `runOn_of_givesConfig` — a run that comes to an extraction.
* `EndsAs` — the four ways to end.
* `eq_seen_of_endsAs` — they can be told apart from outside.
* `run_ends` — every run ends in one of them, and what is told then.
-/
import Mathlib.Logic.ExistsUnique
import Docstrings.Program
import Docstrings.Proofs.Extraction.Events
import Docstrings.Proofs.Program.Texts

namespace Docstrings

open CommandLine Files
open Log (Event Filter Threshold)

/-! ### What a filter shows -/

namespace Log

/-- The lines of some events, one after the other. -/
def linesOf (events : List Event) : String := String.join (events.map Event.line)

/-- The events that a filter shows: those whose level is within the threshold of the
part of the program that they come from. -/
def Filter.shown (f : Filter) (events : List Event) : List Event :=
  events.filter fun e => e.level.rank ≤ (f.threshold e.source).rank

theorem Filter.render_eq (f : Filter) (events : List Event) :
    f.render events = linesOf (f.shown events) := rfl

theorem linesOf_append (a b : List Event) : linesOf (a ++ b) = linesOf a ++ linesOf b := by
  simp [linesOf]

theorem linesOf_singleton (e : Event) : linesOf [e] = e.line := by
  simp [linesOf]

theorem Filter.shown_append (f : Filter) (a b : List Event) :
    f.shown (a ++ b) = f.shown a ++ f.shown b := List.filter_append ..

/-- An error is shown unless nothing is. -/
theorem Threshold.rank_error_le_iff {t : Threshold} : Level.error.rank ≤ t.rank ↔ t ≠ .off := by
  rcases t with - | (_ | _ | _ | _ | _) <;> simp [rank, Level.rank]

end Log

namespace Program

/-! ### Runs -/

/-- What a run of the program comes to on a tree, and the tree that it leaves. -/
def runOn (words : List String) (setting? : Option String) (t : Tree) : Outcome × Tree :=
  (run Tree.access words setting?).run t

/-- The event of a failure, if there is one. -/
def failureOf : Except ExtractError Summary → List Event
  | .ok _ => []
  | .error e => [.failed e]

/-- The events that are shown of an extraction on a tree. -/
def told (c : Config) (setting? : Option String) (t : Tree) : List Event :=
  (Filter.ofSetting c.verbose setting?).shown (eventsOf c t ++ failureOf (outcome c t).1)

theorem eventsShown_eq (r : Traced ExtractError Summary) :
    eventsShown r = r.events ++ failureOf r.result := by
  unfold eventsShown
  rcases r.result with e | summary
  · rfl
  · exact (List.append_nil r.events).symm

section

variable {words : List String} (setting? : Option String) (t : Tree)

theorem runOn_of_stop {stop : Stop} (h : parse .standard words = .error stop) :
    runOn words setting? t = (stopped stop, t) := run_of_stop h

/-- A run that comes to an extraction tells of it on the standard error only, and leaves
what the extraction leaves. -/
theorem runOn_of_givesConfig {c : Config} (h : GivesConfig words c) :
    runOn words setting? t
      = (⟨exitCodeOf (outcome c t).1, "", Log.linesOf (told c setting? t)⟩, (outcome c t).2) := by
  obtain ⟨found, hparse, hconfig⟩ := h
  have hrun : runOn words setting? t
      = (extracted (.ofSetting c.verbose setting?) ((extract Tree.access c).run t).1,
          ((extract Tree.access c).run t).2) := run_of_config hparse hconfig
  rw [hrun, extracted, eventsShown_eq, Filter.render_eq]
  rfl

end

/-! ### Endings -/

/-- The ways in which the program can end. -/
inductive Ending where
  /-- The user is told what was asked for: the help, or the version. -/
  | answered
  /-- The command line is wrong. -/
  | refused
  /-- The report is saved. -/
  | saved
  /-- The extraction has failed. -/
  | failed
  deriving DecidableEq

/-- What a run comes to, and what it leaves of the tree, if it ends in a way. -/
def EndsAs (words : List String) (setting? : Option String) (t : Tree) (r : Outcome × Tree) :
    Ending → Prop
  | .answered => ∃ stop, parse .standard words = .error stop ∧ (stop = .help ∨ stop = .version) ∧
      r = (⟨0, stop.printed .standard, ""⟩, t)
  | .refused => ∃ e, parse .standard words = .error (.usage e) ∧
      r = (⟨2, "", (Stop.usage e).printed .standard⟩, t)
  | .saved => ∃ c summary after, GivesConfig words c ∧ outcome c t = (.ok summary, after) ∧
      r = (⟨0, "", Log.linesOf ((Filter.ofSetting c.verbose setting?).shown (eventsOf c t))⟩,
        after)
  | .failed => ∃ c e, GivesConfig words c ∧ (outcome c t).1 = .error e ∧
      r = (⟨1, "", Log.linesOf ((Filter.ofSetting c.verbose setting?).shown
        (eventsOf c t ++ [.failed e]))⟩, t)

/-- The ending, as it is seen from outside: from the exit code, and from whether there is
something on the standard output. -/
def Ending.seen (o : Outcome) : Ending :=
  if o.exitCode = 2 then .refused
  else if o.exitCode = 1 then .failed
  else if o.stdout = "" then .saved
  else .answered

/-- The user is told something. -/
theorem printed_ne_empty {stop : Stop} (h : stop = .help ∨ stop = .version) (cmd : Command) :
    stop.printed cmd ≠ "" := by
  have happend {a b : String} (hb : b ≠ "") : a ++ b ≠ "" := by
    intro hab
    exact hb (String.append_eq_empty_iff.1 hab).2
  -- the last line of either text is there
  rcases h with rfl | rfl
  · show helpText cmd ≠ ""
    unfold helpText
    exact happend (by decide)
  · show versionText ≠ ""
    unfold versionText
    exact happend (by decide)

section

variable {words : List String} {setting? : Option String} {t : Tree}

/-- The ways to end can be told apart from outside. -/
theorem eq_seen_of_endsAs {r : Outcome × Tree} {ending : Ending}
    (h : EndsAs words setting? t r ending) : ending = .seen r.1 := by
  cases ending with
  | answered =>
    obtain ⟨stop, -, hstop, rfl⟩ := h
    simp [Ending.seen, printed_ne_empty hstop]
  | refused =>
    obtain ⟨e, -, rfl⟩ := h
    rfl
  | saved =>
    obtain ⟨c, summary, after, -, -, rfl⟩ := h
    rfl
  | failed =>
    obtain ⟨c, e, -, -, rfl⟩ := h
    rfl

theorem endsAs_of_stop {stop : Stop} (h : parse .standard words = .error stop) :
    ∃ ending, EndsAs words setting? t (runOn words setting? t) ending := by
  rw [runOn_of_stop setting? t h]
  cases stop with
  | help => exact ⟨.answered, .help, h, .inl rfl, rfl⟩
  | version => exact ⟨.answered, .version, h, .inr rfl, rfl⟩
  | usage e => exact ⟨.refused, e, h, rfl⟩

theorem endsAs_of_givesConfig {c : Config} (h : GivesConfig words c) :
    ∃ ending, EndsAs words setting? t (runOn words setting? t) ending := by
  rw [runOn_of_givesConfig setting? t h]
  rcases hresult : (outcome c t).1 with e | summary
  · refine ⟨.failed, c, e, h, hresult, ?_⟩
    rw [told, hresult, tree_of_outcome_error hresult]
    rfl
  · refine ⟨.saved, c, summary, (outcome c t).2, h, ?_, ?_⟩
    · rw [← hresult]
    · rw [told, hresult, failureOf, List.append_nil]
      rfl

/-- Where errors of the extraction are shown, a failure is told after all else. -/
theorem told_of_failed {c : Config} {e : ExtractError} (h : (outcome c t).1 = .error e)
    (herrors : (Filter.ofSetting c.verbose setting?).threshold .extractor ≠ .off) :
    told c setting? t
      = (Filter.ofSetting c.verbose setting?).shown (eventsOf c t) ++ [.failed e] := by
  have hlast : (Filter.ofSetting c.verbose setting?).shown [.failed e] = [.failed e] :=
    List.filter_cons_of_pos (decide_eq_true (Threshold.rank_error_le_iff.2 herrors))
  rw [told, h, failureOf, Filter.shown_append, hlast]

end

/-- **How the program ends.**  Every run ends in exactly one of the four ways.

A run that stops at its command line prints what names all that it stops for; on the
standard error that is the reason of the error, and a way to get help.  What is told of an
extraction is told event by event, each in a line that shows its level and its wording, and
the wording names what the event is about.
A run that fails, while errors of the extraction are shown at all, tells so at the end of
the standard error, tells no other error, and names the path that could not be read or
written. -/
theorem run_ends (words : List String) (setting? : Option String) (t : Tree) :
    (∃! ending, EndsAs words setting? t (runOn words setting? t) ending) ∧
    (∀ stop, parse .standard words = .error stop → (stop = .help ∨ stop = .version) →
      Names (runOn words setting? t).1.stdout (stop.subjects .pauses)) ∧
    (∀ e, parse .standard words = .error (.usage e) →
      Names (runOn words setting? t).1.stderr (e.subjects .pauses) ∧
      ∃ hints, (runOn words setting? t).1.stderr
        = "error: " ++ e.reason .pauses ++ hints
          ++ "\n\nFor more information, try '--help'.\n") ∧
    (∀ event : Event, event.line = event.level.padded ++ " " ++ event.message ++ "\n" ∧
      Names event.message event.subjects) ∧
    ∀ c e, GivesConfig words c → (outcome c t).1 = .error e →
      (Filter.ofSetting c.verbose setting?).threshold .extractor ≠ .off →
      ∃ before : List Event, before = (Filter.ofSetting c.verbose setting?).shown (eventsOf c t) ∧
        (runOn words setting? t).1.stderr
          = Log.linesOf before ++ (Event.failed e).line ∧
        (∀ event ∈ before, event.level ≠ .error) ∧
        (Event.failed e).line = "ERROR " ++ e.message ++ "\n" ∧
        (Event.failed e).level = .error ∧ (Event.failed e).source = .extractor ∧
        (Event.failed e).message = e.message ∧ e.path.toList <:+: e.message.toList ∧
        e.path.toList <:+: (runOn words setting? t).1.stderr.toList ∧
        e.path = (match e with
          | .write _ => c.outputFile
          | _ => c.filePath) := by
  refine ⟨?_, fun stop hstop hanswer => ?_, fun e he => ?_,
    fun event => ⟨event.line_eq, event.names_message⟩, fun c e hc he herrors => ?_⟩
  · have hends : ∃ ending, EndsAs words setting? t (runOn words setting? t) ending := by
      rcases hparse : parse .standard words with stop | found
      · exact endsAs_of_stop hparse
      · obtain ⟨c, hc⟩ := givesConfig_of_parse hparse
        exact endsAs_of_givesConfig hc
    obtain ⟨ending, hending⟩ := hends
    exact ⟨ending, hending, fun other hother =>
      (eq_seen_of_endsAs hother).trans (eq_seen_of_endsAs hending).symm⟩
  · have hnames := Stop.names_printed hstop
    rw [runOn_of_stop setting? t hstop]
    -- what answers a question goes to the standard output
    rcases hanswer with rfl | rfl
    · exact hnames
    · exact hnames
  · rw [runOn_of_stop setting? t he]
    exact ⟨Stop.names_printed he, e.text_eq .standard .pauses⟩
  · have hline : (Event.failed e).line = "ERROR " ++ e.message ++ "\n" := Event.line_eq _
    have hstderr : (runOn words setting? t).1.stderr
        = Log.linesOf ((Filter.ofSetting c.verbose setting?).shown (eventsOf c t))
          ++ (Event.failed e).line := by
      rw [runOn_of_givesConfig setting? t hc, told_of_failed he herrors, Log.linesOf_append,
        Log.linesOf_singleton]
    refine ⟨_, rfl, hstderr, ?_, hline, rfl, rfl, rfl, e.path_isInfix_message, ?_, ?_⟩
    · intro event hevent
      exact level_ne_error_of_mem_eventsOf (List.mem_filter.1 hevent).1
    · -- the path is in the wording, and the wording in the last line
      rw [hstderr, hline]
      have hpath : Mentions e.message e.path := e.path_isInfix_message
      exact hpath.right.left.right
    · rcases error_of_outcome he with rfl | rfl | ⟨fault, rfl⟩
      · rfl
      · rfl
      · rfl

end Program

end Docstrings

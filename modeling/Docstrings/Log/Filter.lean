/-
Docstrings/Log/Filter.lean

The log filter: which events are shown.

For an event, the directive decides whose target is the longest one that the name
of the event's source starts with; of several with that target, the last one.
Where none applies, nothing is shown.  Without a setting, or with one that is
spoiled, a single directive for all sources holds, whose level depends on whether
the user wants to be told more.

* `ofSetting_of_parse?` — a good setting holds whatever the user wants to be told.
-/
import Docstrings.Log.Directive
import Docstrings.Log.Event

namespace Docstrings

namespace Log

/-! ### Choosing a directive -/

namespace Directive

/-- Whether the directive speaks of sources of this name. -/
def appliesTo (d : Directive) (name : List Char) : Bool := d.target.isPrefixOf name

/-- The directive that counts for a name after one more has been read. -/
def prefer (name : List Char) (best? : Option Directive) (d : Directive) : Option Directive :=
  if d.appliesTo name then
    match best? with
    | none => some d
    | some best => if best.target.length ≤ d.target.length then some d else some best
  else best?

/-- The directive that counts for a name. -/
def choose? (name : List Char) (ds : List Directive) : Option Directive :=
  ds.foldl (prefer name) none

theorem choose?_concat (name : List Char) (ds : List Directive) (d : Directive) :
    choose? name (ds ++ [d]) = prefer name (choose? name ds) d := by
  simp [choose?]

end Directive

/-! ### Filters -/

/-- Which events are shown. -/
structure Filter where
  directives : List Directive
  deriving DecidableEq

namespace Filter

/-- The level up to which events are shown unless a setting says otherwise. -/
def defaultLevel (verbose : Bool) : Level := if verbose then .debug else .info

/-- One threshold for all sources. -/
def uniform (level : Level) : Filter := ⟨[⟨[], .upTo level⟩]⟩

/-- The filter for a setting, if there is one. -/
def ofSetting (verbose : Bool) (setting? : Option String) : Filter :=
  match setting?.bind Directive.parse? with
  | none => uniform (defaultLevel verbose)
  | some ds => ⟨ds⟩

/-- The threshold for events of sources of this name. -/
def thresholdFor (f : Filter) (name : List Char) : Threshold :=
  match Directive.choose? name f.directives with
  | none => .off
  | some d => d.threshold

/-- The threshold for events of a source. -/
def threshold (f : Filter) (source : Source) : Threshold := f.thresholdFor source.name.toList

/-- Whether an event is shown. -/
def admits (f : Filter) (e : Event) : Bool := (f.threshold e.source).admits e.level

/-- The lines of the log for the events that are shown. -/
def render (f : Filter) (events : List Event) : String :=
  String.join ((events.filter f.admits).map Event.line)

@[simp] theorem threshold_uniform (level : Level) (source : Source) :
    (uniform level).threshold source = .upTo level := rfl

theorem ofSetting_of_parse? {verbose : Bool} {setting : String} {ds : List Directive}
    (h : Directive.parse? setting = some ds) : ofSetting verbose (some setting) = ⟨ds⟩ := by
  simp [ofSetting, h]

theorem ofSetting_of_parse?_none {verbose : Bool} {setting : String}
    (h : Directive.parse? setting = none) :
    ofSetting verbose (some setting) = uniform (defaultLevel verbose) := by
  simp [ofSetting, h]

end Filter

end Log

end Docstrings

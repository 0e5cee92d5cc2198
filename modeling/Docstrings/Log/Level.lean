/-
Docstrings/Log/Level.lean

Levels of events and the thresholds that let them through.

Levels go from the gravest, `error`, to the most detailed, `trace`.  A threshold
is a level up to which events are let through, or `off`, which lets none through.

* `Threshold.admits_iff` — a threshold lets a level through exactly if it is
  high enough.
* `Threshold.ofName?_name` — every threshold can be named.
-/

namespace Docstrings

namespace Log

/-! ### Levels -/

/-- How grave, or how detailed, an event is. -/
inductive Level where
  | error
  | warn
  | info
  | debug
  | trace
  deriving DecidableEq

namespace Level

/-- The place of a level, from the gravest on. -/
def rank : Level → Nat
  | error => 1
  | warn => 2
  | info => 3
  | debug => 4
  | trace => 5

/-- The name of a level, as it is shown with an event. -/
def label : Level → String
  | error => "ERROR"
  | warn => "WARN"
  | info => "INFO"
  | debug => "DEBUG"
  | trace => "TRACE"

end Level

/-! ### Thresholds -/

/-- Which events are let through. -/
inductive Threshold where
  /-- No event. -/
  | off
  /-- The events up to a level. -/
  | upTo (level : Level)
  deriving DecidableEq

namespace Threshold

/-- The place of a threshold, from the one that lets nothing through on. -/
def rank : Threshold → Nat
  | off => 0
  | upTo level => level.rank

/-- Whether events of a level are let through. -/
def admits (t : Threshold) (level : Level) : Bool := level.rank ≤ t.rank

/-- All thresholds, by rank. -/
def all : List Threshold := [off, upTo .error, upTo .warn, upTo .info, upTo .debug, upTo .trace]

/-- The name of a threshold. -/
def name : Threshold → String
  | off => "off"
  | upTo .error => "error"
  | upTo .warn => "warn"
  | upTo .info => "info"
  | upTo .debug => "debug"
  | upTo .trace => "trace"

/-- The threshold of a name, in capitals or not. -/
def ofName? (cs : List Char) : Option Threshold :=
  all.find? fun t => t.name.toList == cs.map Char.toLower

/-- The threshold of a rank. -/
def ofRank? (n : Nat) : Option Threshold := all[n]?

theorem admits_iff {t : Threshold} {level : Level} :
    t.admits level = true ↔ level.rank ≤ t.rank := by
  simp [admits]

theorem mem_all (t : Threshold) : t ∈ all := by
  rcases t with - | (_ | _ | _ | _ | _) <;> simp [all]

@[simp] theorem ofRank?_rank (t : Threshold) : ofRank? t.rank = some t := by
  rcases t with - | (_ | _ | _ | _ | _) <;> rfl

theorem ofName?_name (t : Threshold) : ofName? t.name.toList = some t := by
  rcases t with - | (_ | _ | _ | _ | _) <;> decide

end Threshold

end Log

end Docstrings

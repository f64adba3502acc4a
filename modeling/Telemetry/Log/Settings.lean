import Telemetry.Log.Event

/-!
# Settings of the log

* `Threshold`: up to which level events are logged.
* `Format`: how they are written.
* `Settings`: both.
-/

namespace Telemetry.Log

inductive Threshold where
  | off
  | upTo (level : Level)
deriving Repr, DecidableEq

namespace Threshold

def name : Threshold → String
  | off => "off"
  | upTo level => level.name

def all : List Threshold := off :: Level.all.map upTo

def ofName? (name : String) : Option Threshold := all.find? (·.name == name)

/-- How far the threshold is from silence. -/
def verbosity : Threshold → Nat
  | off => 0
  | upTo level => level.verbosity

def passes (t : Threshold) (level : Level) : Bool := level.verbosity ≤ t.verbosity

/-- The stricter of two thresholds. -/
def stricter (s t : Threshold) : Threshold := if s.verbosity ≤ t.verbosity then s else t

theorem passes_stricter (s t : Threshold) (level : Level) :
    (s.stricter t).passes level = (s.passes level && t.passes level) := by
  unfold stricter passes
  split <;> grind

end Threshold

inductive Format where
  /-- Pretty on a terminal, and simplified elsewhere. -/
  | auto
  | pretty
  | simplified
  | json
deriving Repr, DecidableEq

namespace Format

def name : Format → String
  | auto => "auto"
  | pretty => "pretty"
  | simplified => "simplified"
  | json => "json"

def all : List Format := [auto, pretty, simplified, json]

def ofName? (name : String) : Option Format := all.find? (·.name == name)

end Format

structure Settings where
  threshold : Threshold := .upTo .info
  format : Format := .auto
deriving Repr, DecidableEq

end Telemetry.Log

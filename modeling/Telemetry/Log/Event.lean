/-!
# Log events

* `Level`: the severities, the most severe first.
* `Event`: what is logged: a severity, a fixed message and named texts.
-/

namespace Telemetry.Log

inductive Level where
  | error
  | warn
  | info
  | debug
  | trace
deriving Repr, DecidableEq

namespace Level

def name : Level → String
  | error => "error"
  | warn => "warn"
  | info => "info"
  | debug => "debug"
  | trace => "trace"

/-- All levels, the most severe first. -/
def all : List Level := [error, warn, info, debug, trace]

/-- How far the level is from silence. -/
def verbosity : Level → Nat
  | error => 1
  | warn => 2
  | info => 3
  | debug => 4
  | trace => 5

end Level

structure Event where
  level : Level
  message : String
  fields : List (String × String) := []
deriving Repr, DecidableEq

end Telemetry.Log

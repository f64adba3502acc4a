import Telemetry.Log.Filter

/-!
# Setting up the log

The log is set up once; what comes later changes nothing. A text from the environment may take the
place of the threshold in the settings.

* `Style`: how lines are written.
* `Setup.ofSettings`: what settings and environment amount to.
* `Setup.styleOf`: how an event is written, if it is.
-/

namespace Telemetry.Log

inductive Style where
  | plain
  | colored
  | json
deriving Repr, DecidableEq

def Format.style (terminal : Bool) : Format → Style
  | auto => if terminal then .colored else .plain
  | pretty => .colored
  | simplified => .plain
  | json => .json

structure Setup where
  filter : Filter
  style : Style
deriving Repr, DecidableEq

namespace Setup

/-- The setup for some settings. The filter of the environment is used if there is one that can be
read. -/
def ofSettings (own : List String) (environment : Option String) (terminal : Bool)
    (settings : Settings) : Setup :=
  { filter := (environment.bind Filter.parse?).getD (.ofThreshold own settings.threshold)
    style := settings.format.style terminal }

/-- The setup that comes of several settings in turn: that of the first. -/
def ofAttempts (own : List String) (environment : Option String) (terminal : Bool)
    (attempts : List Settings) : Option Setup :=
  attempts.head?.map (ofSettings own environment terminal)

def styleOf (s : Setup) (target : String) (level : Level) : Option Style :=
  if s.filter.passes target level then some s.style else none

end Setup

end Telemetry.Log

/-!
# Diagnostics

What is told about a failure: its own message, and the messages of the failures that caused it.

* `Diagnostic.text`: the message followed by every cause in turn.
-/

namespace Telemetry

structure Diagnostic where
  message : String
  causes : List String := []
deriving Repr, DecidableEq

namespace Diagnostic

/-- One line for the failure and one for each cause. -/
def text (d : Diagnostic) : String :=
  d.causes.foldl (fun text cause => text ++ "\n  caused by: " ++ cause) d.message

/-- A failure with this message that the given one caused. -/
def wrap (message : String) (cause : Diagnostic) : Diagnostic :=
  ⟨message, cause.message :: cause.causes⟩

end Diagnostic

end Telemetry

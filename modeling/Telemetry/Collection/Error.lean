import Telemetry.Namespace.Error

/-!
# Errors of a collection

* `MetricError`: why a metric is refused.
* `SelectorError`: why a selector is refused.
-/

namespace Telemetry

/-- What keeps a path from naming a metric. -/
inductive MetricFlaw where
  | tooShort
  | firstNotName
  | noDefinitions
  | otherElements
deriving Repr, DecidableEq

def MetricFlaw.message : MetricFlaw → String
  | tooShort => "at least two elements required"
  | firstNotName => "first element must be a static name"
  | noDefinitions => "bound dynamic elements require metric definitions"
  | otherElements => "only names and bound groups are allowed"

inductive MetricError where
  | invalidPath (path : String) (cause : SyntaxError)
  | unusable (path : String) (flaw : MetricFlaw)
  | undefined (path : String)
deriving Repr, DecidableEq

def MetricError.diagnostic : MetricError → Diagnostic
  | invalidPath path cause => .wrap ("invalid namespace '" ++ path ++ "'") cause.diagnostic
  | unusable path flaw =>
    ⟨"namespace '" ++ path ++ "' cannot be used for adding metrics: " ++ flaw.message, []⟩
  | undefined path => ⟨"namespace '" ++ path ++ "' does not match any metric definition", []⟩

structure SelectorError where
  selector : String
  cause : SyntaxError
deriving Repr, DecidableEq

def SelectorError.diagnostic (e : SelectorError) : Diagnostic :=
  .wrap ("invalid modifier selector '" ++ e.selector ++ "'") e.cause.diagnostic

end Telemetry

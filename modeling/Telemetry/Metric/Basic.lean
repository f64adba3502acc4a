import Telemetry.Metric.Value
import Telemetry.SortedMap
import Telemetry.Time.Instant

/-!
# Metrics

* `PathElement`: one element of the path of a metric, with the group it belongs to.
* `MetricPath`: the path.
* `Metric`: a measurement with its path, value and description.
-/

namespace Telemetry

/-- A value; if it belongs to a group, the group's name and description too. -/
structure PathElement where
  group : String := ""
  value : String
  description : String := ""
deriving Repr, DecidableEq

def PathElement.isDynamic (e : PathElement) : Bool := e.group != ""

structure MetricPath where
  elements : List PathElement
deriving Repr, DecidableEq

namespace MetricPath

def length (p : MetricPath) : Nat := p.elements.length

def isEmpty (p : MetricPath) : Bool := p.elements.isEmpty

def at? (p : MetricPath) (position : Nat) : Option PathElement := p.elements[position]?

def hasValue (p : MetricPath) (value : String) : Bool := p.elements.any (·.value == value)

def hasValueAt (p : MetricPath) (value : String) (position : Nat) : Bool :=
  (p.at? position).any (·.value == value)

def dynamicElements (p : MetricPath) : List PathElement := p.elements.filter (·.isDynamic)

/-- Every value behind a slash. -/
def text (p : MetricPath) : String :=
  String.ofList (p.elements.flatMap fun e => '/' :: e.value.toList)

end MetricPath

abbrev Tags := SortedMap String

structure Metric where
  path : MetricPath
  value : Value
  tags : Tags := .empty
  unit : String := ""
  description : String := ""
  timestamp : Instant
  type : MetricType
deriving Repr, DecidableEq

namespace Metric

/-- A metric measured at a time, of the type that its value implies. -/
def measured (now : Instant) (path : MetricPath) (value : Value) : Metric :=
  { path, value, timestamp := now, type := value.impliedType }

/-- Equality with values compared as numbers. -/
def same (m n : Metric) : Bool :=
  m.value.same n.value && { m with value := n.value } == n

end Metric

end Telemetry

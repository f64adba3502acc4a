import Telemetry.Number.Text

/-!
# Metric values and types

* `MetricType`: how consumers aggregate a metric.
* `Value`: what was measured.
* `Value.text`: the value in words.
-/

namespace Telemetry

inductive MetricType where
  | unknown
  | gauge
  | sum
  | summary
  | histogram
deriving Repr, DecidableEq

namespace MetricType

def name : MetricType → String
  | unknown => "unknown"
  | gauge => "gauge"
  | sum => "sum"
  | summary => "summary"
  | histogram => "histogram"

def all : List MetricType := [unknown, gauge, sum, summary, histogram]

/-- The type with exactly this name. -/
def ofName? (name : String) : Option MetricType := all.find? (·.name == name)

/-- Names and short names of types. -/
def parse? : String → Option MetricType
  | "g" => some gauge
  | "counter" | "c" => some sum
  | "h" => some histogram
  | s => ofName? s

/-- What is said of a text that names no type. -/
def parseFailure : String := "unknown metric type"

end MetricType

/-- The count and the sum of some observations. -/
structure Summary where
  count : UInt64
  sum : Double
deriving Repr, DecidableEq

/-- Observations in buckets: upper bounds with the number of observations, and totals. -/
structure Histogram where
  points : List (Double × Double)
  count : UInt64
  sum : Double
deriving Repr, DecidableEq

inductive Value where
  | int (n : Int64)
  | uint (n : UInt64)
  | float (x : Double)
  | bool (b : Bool)
  | string (s : String)
  | summary (s : Summary)
  | histogram (h : Histogram)
deriving Repr, DecidableEq

namespace Value

/-- The name of the kind of a value. -/
def kind : Value → String
  | int _ => "int"
  | uint _ => "uint"
  | float _ => "float"
  | bool _ => "bool"
  | string _ => "string"
  | summary _ => "summary"
  | histogram _ => "histogram"

/-- Summaries and histograms say what type their metric has. -/
def impliedType : Value → MetricType
  | summary _ => .summary
  | histogram _ => .histogram
  | _ => .unknown

def totals (count : UInt64) (sum : Double) : String :=
  "count=" ++ toString count.toNat ++ " sum=" ++ sum.text

def text : Value → String
  | int n => toString n.toInt
  | uint n => toString n.toNat
  | float x => x.text
  | bool b => if b then "true" else "false"
  | string s => s
  | summary s => totals s.count s.sum
  | histogram h => totals h.count h.sum

/-- Equality as numbers: a value with a number that is none equals nothing. -/
def same : Value → Value → Bool
  | float x, float y => x.same y
  | summary s, summary t => s.count == t.count && s.sum.same t.sum
  | histogram h, histogram k =>
    h.count == k.count && h.sum.same k.sum && h.points.length == k.points.length &&
      (h.points.zip k.points).all fun (p, q) => p.1.same q.1 && p.2.same q.2
  | v, w => v == w

end Value

end Telemetry

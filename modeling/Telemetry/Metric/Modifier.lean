import Telemetry.Metric.Basic

/-!
# Modifiers

* `Modifier`: a change of a metric.
* `Modifier.apply`, `Modifier.applyAll`: making one change, or several in turn.
-/

namespace Telemetry

inductive Modifier where
  /-- Sets tags and replaces those with the same keys. -/
  | tags (tags : Tags)
  | removeTags (keys : List String)
  | timestamp (t : Instant)
  | description (s : String)
  | unit (s : String)
  | type (t : MetricType)
deriving Repr, DecidableEq

namespace Modifier

def tag (key value : String) : Modifier := tags (SortedMap.empty.insert key value)

def removeTag (key : String) : Modifier := removeTags [key]

def apply (metric : Metric) : Modifier → Metric
  | tags new => { metric with tags := metric.tags.insertAll new.entries }
  | removeTags keys => { metric with tags := keys.foldl SortedMap.erase metric.tags }
  | timestamp t => { metric with timestamp := t }
  | description s => { metric with description := s }
  | unit s => { metric with unit := s }
  | type t => { metric with type := t }

def applyAll (metric : Metric) (modifiers : List Modifier) : Metric :=
  modifiers.foldl apply metric

end Modifier

end Telemetry

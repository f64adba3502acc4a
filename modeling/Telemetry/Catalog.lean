import Telemetry.Log.Logged
import Telemetry.Rule.Definitions
import Telemetry.SortedMap

/-!
# The catalog of metrics

The metrics that may be emitted, with what is told about each of them and about the groups in their
paths.

* `MetricInfo`: what is told about a metric.
* `Catalog.defineMetric`: adds a metric, or refuses it and leaves the catalog as it is.
* `Catalog.defineGroup`: describes a group.
* `Catalog.listMetrics`, `Catalog.listDefaultMetrics`: the metrics in the order of their texts.
-/

namespace Telemetry

open Log

structure MetricInfo where
  unit : String := ""
  /-- The metric is collected when nothing is asked for. -/
  isDefault : Bool := false
  description : String := ""
deriving Repr, DecidableEq

structure Catalog where
  definitions : Definitions := {}
  /-- By the text of the definition. -/
  metrics : SortedMap MetricInfo := .empty
  /-- The descriptions of groups by their names. -/
  groups : SortedMap String := .empty

namespace Catalog

def ofOptions (options : DefinitionOptions) : Catalog := { definitions := { options } }

def options (c : Catalog) : DefinitionOptions := c.definitions.options

/-! ## Defining -/

/-- The catalog with one more metric. -/
def withMetric (c : Catalog) (rule : String) (info : MetricInfo) :
    Except DefinitionError Catalog :=
  (c.definitions.addRule rule).map fun definitions =>
    { c with definitions, metrics := c.metrics.insert rule info }

def rejectedEvent (rule : String) (e : DefinitionError) : Event :=
  ⟨.error, "metric definition rejected", [("namespace", rule), ("error", e.diagnostic.text)]⟩

def defineMetric (c : Catalog) (rule : String) (info : MetricInfo) :
    Logged (Except DefinitionError Catalog) :=
  match c.withMetric rule info with
  | .ok c => ⟨.ok c, [Definitions.addedEvent rule]⟩
  | .error e => ⟨.error e, [rejectedEvent rule e]⟩

/-- Describes a group; an earlier description is replaced. -/
def defineGroup (c : Catalog) (name description : String) : Catalog :=
  { c with groups := c.groups.insert name description }

def withOptions (c : Catalog) (options : DefinitionOptions) : Catalog :=
  { c with definitions := c.definitions.setOptions options }

def allowDynamicLast (c : Catalog) : Catalog := c.withOptions { c.options with dynamicLast := true }

def allowUndefinedMetrics (c : Catalog) : Catalog :=
  c.withOptions { c.options with undefinedMetrics := true }

def allowAnyLevel (c : Catalog) : Catalog := c.withOptions { c.options with anyLevel := true }

/-! ## Asking -/

def metric? (c : Catalog) (rule : String) : Option MetricInfo := c.metrics.get? rule

/-- The description of a group, which is empty unless it was given. -/
def groupDescription (c : Catalog) (name : String) : String := (c.groups.get? name).getD ""

def listMetrics (c : Catalog) : List String := c.definitions.listRules

def listDefaultMetrics (c : Catalog) : List String :=
  (c.metrics.entries.filter (·.2.isDefault)).map (·.1)

end Catalog

end Telemetry

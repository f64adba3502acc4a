import Telemetry.Collection.Path
import Telemetry.Collection.Warning
import Telemetry.Metric.Modifier
import Telemetry.Namespace.Parser
import Telemetry.Rule.Filters
import Telemetry.Task.Basic

/-!
# Collections

A collection gathers the metrics and warnings of one task. A metric must be defined in the catalog
and asked for by the filters. It is changed by the modifiers that come with it, and then by those
that were registered for its path.

* `Collection.recording`: the metric that would be recorded for a path and a value.
* `Collection.addMetric`, `Collection.addWarning`: recording.
* `Collection.shouldProcess`: whether anything below a path can be recorded.
* `Collection.register`, `Collection.dismiss`, `Collection.dismissAll`: the modifiers for whole
  branches of paths.
-/

namespace Telemetry

open Log

/-- Modifiers for all metrics that the selector matches, as long as they are active. -/
structure Registration where
  selector : String
  modifiers : List Modifier
  active : Bool := true
deriving Repr, DecidableEq

/-- Whether the selector matches a path with every bound position written as such. -/
def Registration.selects (g : Registration) (separator : Char) (path : String) : Bool :=
  match Namespace.matchText separator path g.selector with
  | .ok matched => matched
  | .error _ => false

structure Collection (σ : Type) where
  task : Task σ
  catalog : Catalog
  filters : Filters
  /-- In the order in which they were added. -/
  metrics : List Metric := []
  warnings : List Warning := []
  /-- In the order in which they were made; a handle is a position in this list. -/
  registrations : List Registration := []

/-- What becomes of a metric that is not refused. -/
inductive Admission where
  | added
  | filtered
deriving Repr, DecidableEq

namespace Collection

variable {σ : Type}

def separator (c : Collection σ) : Char := c.catalog.options.separator

/-! ## Adding metrics -/

/-- Reads the path of a metric and finds what it is bound to. -/
def resolve (c : Collection σ) (path : String) : Except MetricError (Namespace × Resolution) :=
  let definitions := c.catalog.definitions
  match definitions.parse path with
  | .error e => .error (.invalidPath path e)
  | .ok ns =>
    match pathFlaw? definitions.hasRules false ns.elements with
    | some flaw => .error (.unusable path flaw)
    | none =>
      match definitions.resolve ns with
      | none => .error (.undefined path)
      | some r => .ok (ns, r)

/-- The metric as it is before any modifier: with the unit and description of its definition. -/
def baseMetric (c : Catalog) (now : Instant) (ns : Namespace) (r : Resolution) (value : Value) :
    Metric :=
  let metric := Metric.measured now (boundPath c ns r) value
  match c.metric? (r.key ns) with
  | none => metric
  | some info => { metric with unit := info.unit, description := info.description }

/-- The modifiers that are registered for a path, in the order of their registrations. -/
def registeredModifiers (c : Collection σ) (path : String) : List Modifier :=
  (c.registrations.filter fun g => g.active && g.selects c.separator path).flatMap (·.modifiers)

/-- The metric that is recorded for a path and a value, or nothing if the filters do not ask for it. -/
def recording (c : Collection σ) (now : Instant) (path : String) (value : Value)
    (modifiers : List Modifier) : Except MetricError (Option Metric) :=
  (c.resolve path).map fun (ns, r) =>
    if c.filters.accepts ns then
      let base := baseMetric c.catalog now ns r value
      some (Modifier.applyAll base (modifiers ++ c.registeredModifiers (boundText ns r)))
    else none

def filteredEvent (c : Collection σ) (path : String) : Event :=
  ⟨.trace, "metric filtered", [("task", c.task.id), ("namespace", path)]⟩

/-- Records a metric; the collection is as before if it is refused or not asked for. -/
def addMetric (c : Collection σ) (now : Instant) (path : String) (value : Value)
    (modifiers : List Modifier) : Logged (Collection σ × Except MetricError Admission) :=
  match c.recording now path value modifiers with
  | .error e => ⟨(c, .error e), []⟩
  | .ok none => ⟨(c, .ok .filtered), [c.filteredEvent path]⟩
  | .ok (some metric) => ⟨({ c with metrics := c.metrics ++ [metric] }, .ok .added), []⟩

/-! ## Asking ahead -/

def unreadableEvent (path : String) (e : SyntaxError) : Event :=
  ⟨.debug, "invalid namespace, not processing", [("namespace", path), ("error", e.message)]⟩

def unusableEvent (path : String) (flaw : MetricFlaw) : Event :=
  ⟨.debug, "unusable namespace, not processing", [("namespace", path), ("reason", flaw.message)]⟩

/-- Whether metrics whose paths begin like this can be recorded; `*` stands for any element but the
first. -/
def shouldProcess (c : Collection σ) (path : String) : Logged Bool :=
  let definitions := c.catalog.definitions
  match definitions.parse path with
  | .error e => ⟨false, [unreadableEvent path e]⟩
  | .ok ns =>
    match pathFlaw? definitions.hasRules true ns.elements with
    | some flaw => ⟨false, [unusableEvent path flaw]⟩
    | none => ⟨definitions.resolvesPrefix ns && c.filters.acceptsPrefix ns, []⟩

/-- The rules that the task asks for. -/
def requestedMetrics (c : Collection σ) : List String := c.filters.listRules

/-! ## Modifiers for many metrics -/

/-- Nothing, or the separator alone: a selector of every metric. -/
def selectsAll (separator : Char) (selector : String) : Bool :=
  selector.isEmpty || selector == separator.toString

/-- Registers modifiers and returns their handle. -/
def register (c : Collection σ) (selector : String) (modifiers : List Modifier) :
    Except SelectorError (Collection σ × Nat) :=
  let registered :=
    ({ c with registrations := c.registrations ++ [{ selector, modifiers }] },
      c.registrations.length)
  if selectsAll c.separator selector then .ok registered
  else match Namespace.parse c.separator true selector with
    | .error e => .error ⟨selector, e⟩
    | .ok _ => .ok registered

/-- Stops the registration with this handle; an unknown handle changes nothing. -/
def dismiss (c : Collection σ) (handle : Nat) : Collection σ :=
  { c with registrations := c.registrations.modify handle ({ · with active := false }) }

def dismissAll (c : Collection σ) : Collection σ :=
  { c with registrations := c.registrations.map ({ · with active := false }) }

/-! ## Warnings -/

def droppedEvent (c : Collection σ) : Event :=
  ⟨.warn, "too many warnings, warning dropped", [("task", c.task.id)]⟩

def truncatedEvent (c : Collection σ) : Event :=
  ⟨.info, "warning message truncated", [("task", c.task.id)]⟩

/-- Keeps a warning, cut to its allowed length, as long as there are not too many. -/
def addWarning (c : Collection σ) (now : Instant) (message : String) : Logged (Collection σ) :=
  if c.warnings.length ≥ Warning.maxCount then ⟨c, [c.droppedEvent]⟩
  else
    ⟨{ c with warnings := c.warnings ++ [Warning.given now message] },
      if message.utf8ByteSize > Warning.maxBytes then [c.truncatedEvent] else []⟩

end Collection

/-- What a collection has gathered. -/
structure Collected where
  metrics : List Metric
  warnings : List Warning
deriving Repr, DecidableEq

def Collection.finish {σ : Type} (c : Collection σ) : Collected := ⟨c.metrics, c.warnings⟩

end Telemetry

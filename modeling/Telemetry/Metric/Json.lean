import Telemetry.Json.Reader
import Telemetry.Json.Record
import Telemetry.Json.Writer
import Telemetry.Metric.Modifier

/-!
# Metrics as JSON

Empty texts and empty tags are left out when a metric is written, and are taken for empty when they
are missing. What time a text stands for is left to `readInstant`.

* `Value.toJson`, `Value.ofJson`: values with a tag for their kind.
* `Metric.toJson`, `Metric.ofJson`: whole metrics.
-/

namespace Telemetry

open Json (Record record? field fieldOr string? natural? double? list? pair? variant)

/-- A member with a text, unless the text is empty. -/
def textMember (name s : String) : List (String × Json) :=
  if s = "" then [] else [(name, .string s)]

namespace MetricType

def toJson (t : MetricType) : Json := .string t.name

def ofJson (j : Json) : Option MetricType := (variant j).bind ofName?

end MetricType

/-! ## Values -/

namespace Summary

def toJson (s : Summary) : Json :=
  .object [("count", .ofNat s.count.toNat), ("sum", .number (.float s.sum))]

def ofJson (j : Json) : Option Summary := do
  let r ← record? ["count", "sum"] j
  return ⟨← field r "count" natural?, ← field r "sum" double?⟩

end Summary

namespace Histogram

def toJson (h : Histogram) : Json :=
  .object [
    ("data_points", .array (h.points.map fun (bound, count) =>
      .array [.number (.float bound), .number (.float count)])),
    ("count", .ofNat h.count.toNat), ("sum", .number (.float h.sum))]

def ofJson (j : Json) : Option Histogram := do
  let r ← record? ["data_points", "count", "sum"] j
  return ⟨← field r "data_points" (list? (pair? double?)), ← field r "count" natural?,
    ← field r "sum" double?⟩

end Histogram

namespace Value

def content : Value → Json
  | int n => .ofInt n.toInt
  | uint n => .ofNat n.toNat
  | float x => .number (.float x)
  | bool b => .bool b
  | string s => .string s
  | summary s => s.toJson
  | histogram h => h.toJson

def toJson (v : Value) : Json := .object [("type", .string v.kind), ("value", v.content)]

def ofContent (kind : String) (content : Json) : Option Value :=
  match kind with
  | "int" => content.integer?.map int
  | "uint" => content.natural?.map uint
  | "float" => content.double?.map float
  | "bool" => content.bool?.map bool
  | "string" => content.string?.map string
  | "summary" => (Summary.ofJson content).map summary
  | "histogram" => (Histogram.ofJson content).map histogram
  | _ => none

/-- Arrays and objects may not be nested more deeply than this where a value has to be kept. -/
def maxDepth : Nat := 127

/-- Whether a value that stands before its tag, at some depth, can be kept until the tag is known. -/
def canKeep (depth : Nat) (members : List (String × Json)) : Bool :=
  match members.find? fun (key, _) => key == "type" || key == "value" with
  | some ("value", content) => content.isSound && depth + content.depth ≤ maxDepth
  | _ => true

/-- Reads a value that stands at some depth of a larger one. -/
def ofJson (depth : Nat) (j : Json) : Option Value := do
  let r ← match j with
    | .object members => if canKeep (depth + 1) members then record? ["type", "value"] j else none
    | _ => record? ["type", "value"] j
  ofContent (← field r "type" variant) (← Json.field? r "value")

end Value

/-! ## Paths -/

namespace PathElement

def toJson (e : PathElement) : Json :=
  .object (textMember "name" e.group ++ [("value", .string e.value)] ++
    textMember "description" e.description)

def ofJson (j : Json) : Option PathElement := do
  let r ← record? ["name", "value", "description"] j
  return ⟨← fieldOr r "name" "" string?, ← field r "value" string?,
    ← fieldOr r "description" "" string?⟩

end PathElement

namespace MetricPath

def toJson (p : MetricPath) : Json := .array (p.elements.map PathElement.toJson)

def ofJson (j : Json) : Option MetricPath := (list? PathElement.ofJson j).map (⟨·⟩)

end MetricPath

/-! ## Metrics -/

def Tags.toJson (tags : Tags) : Json :=
  .object (tags.entries.map fun (key, value) => (key, .string value))

/-- Of tags with the same key the last one counts. -/
def Tags.ofJson : Json → Option Tags
  | .object members => do
    let entries ← members.mapM fun (key, value) => (value.string?).map (key, ·)
    return SortedMap.ofList entries
  | _ => none

def Instant.toJson (t : Instant) : Json := .string t.text

def Instant.ofJson (readInstant : String → Option Instant) (j : Json) : Option Instant :=
  j.string?.bind readInstant

namespace Metric

def toJson (m : Metric) : Json :=
  .object ([("namespace", m.path.toJson), ("value", m.value.toJson)] ++
    (if m.tags.isEmpty then [] else [("tags", Tags.toJson m.tags)]) ++
    textMember "unit" m.unit ++ textMember "description" m.description ++
    [("timestamp", m.timestamp.toJson), ("type", m.type.toJson)])

def ofJson (readInstant : String → Option Instant) (j : Json) : Option Metric := do
  let r ← record? ["namespace", "value", "tags", "unit", "description", "timestamp", "type"] j
  return {
    path := ← field r "namespace" MetricPath.ofJson
    value := ← field r "value" (Value.ofJson 1)
    tags := ← fieldOr r "tags" .empty Tags.ofJson
    unit := ← fieldOr r "unit" "" string?
    description := ← fieldOr r "description" "" string?
    timestamp := ← field r "timestamp" (Instant.ofJson readInstant)
    type := ← fieldOr r "type" .unknown MetricType.ofJson }

end Metric

end Telemetry

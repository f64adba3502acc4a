import Telemetry.Json.Record
import Telemetry.Yaml.Node

/-!
# Forms of data

Settings are read alike from different formats. A form says how the values of a format are taken for
records, texts, truth values and names.

* `Form`: the ways of taking a value.
* `Form.json`: JSON values, of which records may be given as lists.
* `Form.yaml`: the nodes of a YAML document, in which every scalar is a text.
-/

namespace Telemetry

structure Form (α : Type) where
  /-- The fields of a record that are present. -/
  record? : (names : List String) → α → Option (List (String × α))
  text? : α → Option String
  bool? : α → Option Bool
  /-- The name of one of some alternatives. -/
  variant? : α → Option String

namespace Form

/-- A field that has a value of its own if it is missing. -/
def field {α β : Type} (record : List (String × α)) (name : String) (default : β)
    (read : α → Option β) : Option β :=
  match record.find? (·.1 == name) with
  | none => some default
  | some (_, value) => read value

def json : Form Json :=
  { record? := Json.record?, text? := Json.string?, bool? := Json.bool?, variant? := Json.variant }

/-! ## YAML -/

open Yaml

def boolTag : String := "tag:yaml.org,2002:bool"

def yamlText? (d : Document) (node : Node) : Option String :=
  match d.resolve node with
  | some (.scalar _ _ text) => some text
  | _ => none

/-- Truth values are plain, or literal with a tag that says so. -/
def yamlBool? (d : Document) (node : Node) : Option Bool :=
  match d.resolve node with
  | some (.scalar tag style text) =>
    if style = .plain ∨ (style = .literal ∧ tag = some boolTag) then
      if ["true", "True", "TRUE"].contains text then some true
      else if ["false", "False", "FALSE"].contains text then some false
      else none
    else none
  | _ => none

/-- The name in a tag behind an exclamation mark, which may be missing if there is nothing else. -/
def tagName? (tag : Option String) : Option String :=
  match tag.map (·.toList) with
  | some ['!'] => some "!"
  | some ('!' :: name) => some (.ofList name)
  | _ => none

def isNull (style : ScalarStyle) (text : String) : Bool :=
  style == .plain && ["", "~", "null", "Null", "NULL"].contains text

/-- A name is a scalar, or the tag of nothing. -/
def yamlVariant? (d : Document) (node : Node) : Option String :=
  match d.resolve node with
  | some (.scalar tag style text) =>
    match tagName? tag with
    | some name => if isNull style text then some name else none
    | none => some text
  | _ => none

/-- Records are mappings, and nothing is a mapping too. All keys are scalars, and no known key
stands twice. -/
def yamlRecord? (d : Document) (names : List String) (node : Node) :
    Option (List (String × Node)) := do
  let members ← match ← d.resolve node with
    | .mapping _ pairs => pairs.mapM fun (key, value) => do return (← yamlText? d key, value)
    | .scalar _ .plain "" => some []
    | _ => none
  let known := members.filter fun (key, _) => names.contains key
  if (known.map (·.1)).Nodup then some known else none

def yaml (d : Document) : Form Node :=
  { record? := yamlRecord? d, text? := yamlText? d, bool? := yamlBool? d
    variant? := yamlVariant? d }

end Form

end Telemetry

import Telemetry.Json.Basic

/-!
# Reading records

Records are read from objects, whose unknown members are ignored, or from arrays with their fields
in order. A field that has a default may be missing, at the end in an array. Nothing is read from an
object with a known key twice, or from an array with more items than fields.

* `Json.Record`: what a record may be read from.
* `Json.Record.field`, `Json.Record.fieldOr`: reading one field.
* `Json.variant`: the name of one of some alternatives.
-/

namespace Telemetry.Json

/-- The fields of a record that are present, by name. -/
abbrev Record := List (String × Json)

def field? (record : Record) (name : String) : Option Json :=
  (record.find? (·.1 == name)).map (·.2)

/-- The present fields of an object or an array. -/
def record? (names : List String) : Json → Option Record
  | object members =>
    let known := members.filter fun (key, _) => names.contains key
    if (known.map (·.1)).Nodup then some known else none
  | array items =>
    if items.length ≤ names.length then some (names.zip items) else none
  | _ => none

/-- A field that must be present. -/
def field {α : Type} (record : Record) (name : String) (read : Json → Option α) : Option α :=
  (field? record name).bind read

/-- A field that has a value of its own if it is missing. -/
def fieldOr {α : Type} (record : Record) (name : String) (default : α)
    (read : Json → Option α) : Option α :=
  match field? record name with
  | none => some default
  | some value => read value

def string? : Json → Option String
  | string s => some s
  | _ => none

def bool? : Json → Option Bool
  | bool b => some b
  | _ => none

def natural? : Json → Option UInt64
  | number (.natural n) => some (UInt64.ofNat n)
  | _ => none

def integer? : Json → Option Int64
  | number (.natural n) => if n < 0x8000000000000000 then some (Int64.ofNat n) else none
  | number (.negative n) => some (Int64.ofInt (-(n : Int)))
  | _ => none

def double? : Json → Option Double
  | number n => some n.toDouble
  | _ => none

/-- An array whose items are all read. -/
def list? {α : Type} (read : Json → Option α) : Json → Option (List α)
  | array items => items.mapM read
  | _ => none

def pair? {α : Type} (read : Json → Option α) : Json → Option (α × α)
  | array [a, b] => do return (← read a, ← read b)
  | _ => none

/-- The name of an alternative without contents, on its own or as the key of `null`. -/
def variant : Json → Option String
  | string s => some s
  | object [(name, null)] => some name
  | _ => none

end Telemetry.Json

import Telemetry.Json.Basic
import Telemetry.SortedMap

/-!
# The configuration of a task

A configuration is an object. Its leaves are found under dotted paths: the keys on the way to them,
joined by dots.

* `Configuration.scalarText`: the text of a string, number or truth value.
* `Configuration.leaves`: the dotted paths of an object with their texts.
* `Configuration.flatten`: the leaves as a map, in which later ones replace earlier ones.
-/

namespace Telemetry.Configuration

def scalarText : Json → Option String
  | .string s => some s
  | .number n => some n.text
  | .bool b => some (if b then "true" else "false")
  | _ => none

/-- The path of a member below a path; nothing stands for the root. -/
def below (path key : String) : String :=
  if path.isEmpty then key else path ++ "." ++ key

/-- An array as one text; items that are no scalars are left out. -/
def joined (items : List Json) : String := ",".intercalate (items.filterMap scalarText)

mutual
def leaves (path : String) : Json → List (String × String)
  | .object members => leavesOfMembers path members
  | .array items => [(path, joined items)]
  | value => (scalarText value).toList.map (path, ·)

def leavesOfMembers (path : String) : List (String × Json) → List (String × String)
  | [] => []
  | (key, value) :: rest => leaves (below path key) value ++ leavesOfMembers path rest
end

def flatten (config : Json) : SortedMap String := .ofList (leaves "" config)

end Telemetry.Configuration

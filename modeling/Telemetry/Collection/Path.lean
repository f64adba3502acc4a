import Telemetry.Catalog
import Telemetry.Collection.Error
import Telemetry.Metric.Basic

/-!
# Paths of metrics

What a collector writes for a metric: names, and values bound to groups.

* `pathFlaw?`: what is wrong with a path, if anything.
* `boundText`: a path with every bound position written as such.
* `boundPath`: the path of the metric, with the groups and their descriptions.
-/

namespace Telemetry

/-- What is wrong with an element behind the first. -/
def elementFlaw? (hasDefinitions allowAny : Bool) : Element → Option MetricFlaw
  | .name _ => none
  | .bound _ _ => if hasDefinitions then none else some .noDefinitions
  | .wildcard => if allowAny then none else some .otherElements
  | _ => some .otherElements

/-- The first thing that is wrong with a path, where `*` may be allowed behind the first element. -/
def pathFlaw? (hasDefinitions allowAny : Bool) (elements : List Element) : Option MetricFlaw :=
  if elements.length < 2 then some .tooShort
  else if !(elements.head?.any Element.isName) then some .firstNotName
  else elements.tail.findSome? (elementFlaw? hasDefinitions allowAny)

/-- The element's value, between brackets with its group if it is bound to one. -/
def boundChars (e : Element) (group : Option String) : List Char :=
  let value := (e.value?.getD "").toList
  match group with
  | some g => '[' :: (g.toList ++ '=' :: (value ++ [']']))
  | none => value

def boundText (ns : Namespace) (r : Resolution) : String :=
  String.ofList ((ns.elements.zip r).flatMap fun (e, group) => ns.separator :: boundChars e group)

def boundElement (c : Catalog) (e : Element) : (group : Option String) → PathElement
  | some g => ⟨g, e.value?.getD "", c.groupDescription g⟩
  | none => { value := e.value?.getD "" }

def boundPath (c : Catalog) (ns : Namespace) (r : Resolution) : MetricPath :=
  ⟨(ns.elements.zip r).map fun (e, group) => boundElement c e group⟩

end Telemetry

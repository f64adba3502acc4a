import Telemetry.Element.Parser

/-!
# Namespaces

* `Namespace`: a path of elements with the character that separates them.
* `Namespace.text`: every element behind a separator.
* `Namespace.isConcrete`: whether the path names metrics.
* `Namespace.matchesFilter`: the path against one filter.
-/

namespace Telemetry

structure Namespace where
  separator : Char
  elements : List Element
deriving DecidableEq

/-- The separator where none is chosen. -/
def defaultSeparator : Char := '/'

namespace Namespace

def length (ns : Namespace) : Nat := ns.elements.length

def charsOf (separator : Char) (elements : List Element) : List Char :=
  elements.flatMap fun e => separator :: e.chars

def text (ns : Namespace) : String := String.ofList (charsOf ns.separator ns.elements)

def isTrailing (ns : Namespace) : Bool := ns.elements.getLast? == some .trailing

/-- The elements before a trailing `**`. -/
def required (elements : List Element) : List Element :=
  if elements.getLast? = some .trailing then elements.dropLast else elements

/-- Whether an element stands for one metric value, or, if allowed, for any single one. -/
def isConcreteElement (allowAny : Bool) : Element → Bool
  | .name _ | .bound _ _ => true
  | .wildcard => allowAny
  | _ => false

/-- A concrete path has at least two elements, of which the first is a name and the others are names
or bound. -/
def isConcrete (ns : Namespace) (allowAny : Bool) : Bool :=
  match ns.elements with
  | first :: second :: rest => first.isName && (second :: rest).all (isConcreteElement allowAny)
  | _ => false

/-! ## Matching against one filter -/

/-- Compares position by position until a `**` or the end of either path. -/
def admitsPrefix : (filter elements : List Element) → Bool
  | .trailing :: _, _ => true
  | f :: filter, e :: elements => f.admits e && admitsPrefix filter elements
  | _, _ => true

/-- A filter matches every path that it is an initial part of, position by position. -/
def matchesFilter (ns filter : Namespace) : Except MatchError Bool :=
  let required := filter.length - (if filter.isTrailing then 1 else 0)
  if ns.length < required then .error (.tooFewElements ns.length required)
  else .ok (admitsPrefix filter.elements ns.elements)

end Namespace

end Telemetry

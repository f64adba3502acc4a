import Telemetry.Pattern

/-!
# Elements

A namespace is a path of elements. A static element is a name, a wildcard or a pattern; a dynamic
one belongs to a group and may be bound to a value or restricted by a pattern. `**` stands for any
number of further elements.

* `Element`: the seven kinds.
* `Element.text`: how an element is written.
* `Element.admits`: which elements another one stands for.
-/

namespace Telemetry

inductive Element where
  /-- A name that only stands for itself, such as `cpu`. -/
  | name (text : String)
  /-- `*`, any single element. -/
  | wildcard
  /-- `{pattern}`, the elements whose value matches. -/
  | pattern (p : Pattern)
  /-- `[group]`, any value of the group. -/
  | group (g : String)
  /-- `[group=value]`, one value of the group. -/
  | bound (g : String) (value : String)
  /-- `[group={pattern}]`, the values of the group that match. -/
  | groupPattern (g : String) (p : Pattern)
  /-- `**`, any number of trailing elements, including none. -/
  | trailing
deriving DecidableEq

namespace Element

def isDynamic : Element → Bool
  | group _ | bound _ _ | groupPattern _ _ => true
  | _ => false

def isWildcard : Element → Bool
  | wildcard | trailing => true
  | _ => false

def isName : Element → Bool
  | name _ => true
  | _ => false

def groupName? : Element → Option String
  | group g | bound g _ | groupPattern g _ => some g
  | _ => none

/-- The value that a name or a bound element carries. -/
def value? : Element → Option String
  | name v | bound _ v => some v
  | _ => none

/-- The pattern within the braces. -/
def pattern? : Element → Option Pattern
  | pattern p | groupPattern _ p => some p
  | _ => none

/-! ## Writing -/

def chars : Element → List Char
  | name text => text.toList
  | wildcard => ['*']
  | pattern p => '{' :: (p.raw.toList ++ ['}'])
  | group g => '[' :: (g.toList ++ [']'])
  | bound g v => '[' :: (g.toList ++ '=' :: (v.toList ++ [']']))
  | groupPattern g p => '[' :: (g.toList ++ '=' :: '{' :: (p.raw.toList ++ ['}', ']']))
  | trailing => ['*', '*']

def text (e : Element) : String := String.ofList e.chars

@[simp] theorem toList_text (e : Element) : e.text.toList = e.chars := by simp [text]

/-! ## Matching -/

/-- Whether a group constraint admits the candidate: it has the same group or none. -/
def sameGroup (g : String) (candidate : Element) : Bool := candidate.groupName?.all (· == g)

/-- Whether the element can stand for the candidate. Static elements look at the candidate's value
only, dynamic ones at its group too; a candidate without a value stands for some value and fits
every constraint on it. -/
def admits (e candidate : Element) : Bool :=
  candidate.isWildcard || match e with
    | name text => candidate.value?.all (· == text)
    | wildcard | trailing => true
    | pattern p => candidate.value?.all p.accepts
    | group g => sameGroup g candidate
    | bound g v => sameGroup g candidate && candidate.value?.all (· == v)
    | groupPattern g p => sameGroup g candidate && candidate.value?.all p.accepts

end Element

end Telemetry

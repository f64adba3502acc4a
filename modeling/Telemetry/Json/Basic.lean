import Telemetry.Number.Text

/-!
# JSON values

* `Json`: the values; `invalid` is well formed as text but stands for no value.
* `Json.ofMembers`, `Json.sorted`: objects with their keys in order.
* `Json.depth`, `Json.isSound`: how deeply a value is nested, and whether all of it has a value.
-/

namespace Telemetry

/-- Numbers are whole, as far as they fit into 64 bits with or without a sign, or floating. -/
inductive JsonNumber where
  | natural (n : Nat)
  /-- A number below zero, by its absolute value. -/
  | negative (n : Nat)
  | float (x : Double)
deriving Repr, DecidableEq

inductive Json where
  | null
  | bool (b : Bool)
  | number (n : JsonNumber)
  | string (s : String)
  | array (items : List Json)
  | object (members : List (String × Json))
  /-- A number beyond all formats, or a string with half of a surrogate pair. -/
  | invalid

namespace JsonNumber

/-- The largest whole number without a sign. -/
def maxNatural : Nat := 0xFFFFFFFFFFFFFFFF

/-- The largest absolute value of a number below zero. -/
def maxNegative : Nat := 0x8000000000000000

def ofInt (n : Int) : JsonNumber := if n < 0 then .negative n.natAbs else .natural n.natAbs

def toDouble : JsonNumber → Double
  | natural n => .ofNat n
  | negative n => .ofInt (-(n : Int))
  | float x => x

def text : JsonNumber → String
  | natural n => toString n
  | negative n => "-" ++ toString n
  | float x => x.jsonText

end JsonNumber

namespace Json

def ofNat (n : Nat) : Json := number (.natural n)

def ofInt (n : Int) : Json := number (.ofInt n)

def strings (ss : List String) : Json := array (ss.map string)

/-- The last member with a key. -/
def member? (key : String) : List (String × Json) → Option Json
  | [] => none
  | (k, v) :: rest => (member? key rest).or (if k = key then some v else none)

def get? (key : String) : Json → Option Json
  | object members => member? key members
  | _ => none

/-- Adds a member in the order of keys; a member with the same key is replaced. -/
def putMember (key : String) (value : Json) : List (String × Json) → List (String × Json)
  | [] => [(key, value)]
  | (k, v) :: rest =>
    if key = k then (key, value) :: rest
    else if key < k then (key, value) :: (k, v) :: rest
    else (k, v) :: putMember key value rest

/-- The object of some members, of which later ones replace earlier ones with the same key. -/
def ofMembers (members : List (String × Json)) : Json :=
  object (members.foldl (fun sorted (k, v) => putMember k v sorted) [])

mutual
/-- The value with all objects in the order of their keys, in which later members replace earlier
ones. -/
def sorted : Json → Json
  | array items => array (sortedItems items)
  | object members => ofMembers (sortedMembers members)
  | other => other

def sortedItems : List Json → List Json
  | [] => []
  | item :: rest => item.sorted :: sortedItems rest

def sortedMembers : List (String × Json) → List (String × Json)
  | [] => []
  | (key, value) :: rest => (key, value.sorted) :: sortedMembers rest
end

mutual
/-- The levels of arrays and objects. -/
def depth : Json → Nat
  | array items => 1 + depthOfItems items
  | object members => 1 + depthOfMembers members
  | _ => 0

def depthOfItems : List Json → Nat
  | [] => 0
  | item :: rest => max item.depth (depthOfItems rest)

def depthOfMembers : List (String × Json) → Nat
  | [] => 0
  | (_, value) :: rest => max value.depth (depthOfMembers rest)
end

mutual
/-- Nothing within the value is invalid. -/
def isSound : Json → Bool
  | invalid => false
  | array items => soundItems items
  | object members => soundMembers members
  | _ => true

def soundItems : List Json → Bool
  | [] => true
  | item :: rest => item.isSound && soundItems rest

def soundMembers : List (String × Json) → Bool
  | [] => true
  | (_, value) :: rest => value.isSound && soundMembers rest
end

end Json

end Telemetry

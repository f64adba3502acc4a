import Telemetry.Yaml.Token

/-!
# YAML documents

* `Node`: scalars, sequences and mappings, and aliases for nodes that stand elsewhere.
* `Anchors`: which node an anchor's name stands for.
* `Document`: a node with everything that its aliases stand for.
* `Document.resolve`: the node that is meant by a node.
-/

namespace Telemetry.Yaml

inductive Node where
  /-- The anchor with this number. -/
  | alias (number : Nat)
  | scalar (tag : Option String) (style : ScalarStyle) (text : String)
  | sequence (tag : Option String) (items : List Node)
  | mapping (tag : Option String) (pairs : List (Node × Node))

/-- A missing scalar. -/
def Node.empty : Node := .scalar none .plain ""

/-! ## Anchors -/

/-- The anchors that have begun. An anchor has the number of names before it; of those with one
number the last counts. -/
structure Anchors where
  /-- The number of each name, the latest first. -/
  numbers : List (String × Nat) := []
  /-- How many anchors have begun. -/
  begun : Nat := 0
  /-- The node of each anchor, with its number and how many had begun before it. -/
  nodes : List (Nat × Nat × Node) := []

namespace Anchors

def number? (a : Anchors) (name : String) : Option Nat :=
  (a.numbers.find? (·.1 == name)).map (·.2)

/-- Begins an anchor and returns its number and its turn. -/
def start (a : Anchors) (name : String) : (Nat × Nat) × Anchors :=
  let number := a.numbers.length
  let others := a.numbers.filter (·.1 != name)
  ((number, a.begun), { a with numbers := (name, number) :: others, begun := a.begun + 1 })

def record (a : Anchors) (place : Nat × Nat) (node : Node) : Anchors :=
  { a with nodes := (place.1, place.2, node) :: a.nodes }

/-- The node that a number stands for. -/
def node? (a : Anchors) (number : Nat) : Option Node :=
  let found := a.nodes.filter (·.1 == number)
  (found.find? fun (_, turn, _) => found.all (·.2.1 ≤ turn)).map (·.2.2)

end Anchors

/-! ## Documents -/

structure Document where
  /-- A text without any document has no root. -/
  root : Option Node := none
  anchors : Anchors := {}

/-- The node itself, or the one that the alias stands for. -/
def Document.resolve (d : Document) : Node → Option Node
  | .alias number => d.anchors.node? number
  | node => some node

end Telemetry.Yaml

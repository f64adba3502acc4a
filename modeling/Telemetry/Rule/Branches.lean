import Telemetry.Namespace.Parser

/-!
# Rules with shared beginnings

Rules are paths of elements. Paths that begin alike share their first nodes; a node is an end if
some rule ends there. Names are looked up by their text, all other children are patterns and keep
the order in which they came.

* `Branches`: the children of a node, or the top of a tree.
* `Branches.nodes`: all children, names first.
* `Branches.insert`: the tree with one more path, and whether the path is new.
* `Branches.paths`: the paths of all rules.
-/

namespace Telemetry

mutual

/-- The children of a node: a map from texts to the nodes of names, and the nodes of patterns. -/
structure Branches where
  literals : List (String × Branch)
  patterns : List Branch

/-- A node with all that is below it. -/
structure Branch where
  element : Element
  isEnd : Bool
  children : Branches

end

namespace Branches

def empty : Branches := ⟨[], []⟩

/-- Which children there are. -/
inductive Kind where
  | leaf
  /-- Names only. -/
  | static
  /-- Patterns only. -/
  | dynamic
  | mixed
deriving Repr, DecidableEq

def kind (b : Branches) : Kind :=
  match b.literals.isEmpty, b.patterns.isEmpty with
  | true, true => .leaf
  | false, true => .static
  | true, false => .dynamic
  | false, false => .mixed

def isEmpty (b : Branches) : Bool := b.kind == .leaf

def nodes (b : Branches) : List Branch := b.literals.map (·.2) ++ b.patterns

/-- The child under a text. -/
def literal? (b : Branches) (text : String) : Option Branch :=
  (b.literals.find? (·.1 == text)).map (·.2)

/-- The first pattern of this kind. -/
def pattern? (b : Branches) (p : Element → Bool) : Option Branch := b.patterns.find? (p ·.element)

/-- The child with exactly this element. -/
def child? (b : Branches) : Element → Option Branch
  | .name text => b.literal? text
  | e => b.pattern? (· == e)

def hasTrailing (b : Branches) : Bool := b.patterns.any (·.element == .trailing)

/-! ## Insertion -/

/-- Puts a value in the place of the first one with the same key, or at the end. -/
def put {α κ : Type} [DecidableEq κ] (key : α → κ) (a : α) : List α → List α
  | [] => [a]
  | x :: rest => if key x = key a then a :: rest else x :: put key a rest

/-- The child with this element, or a new one. -/
def childOrNew (b : Branches) (e : Element) : Branch := (b.child? e).getD ⟨e, false, empty⟩

/-- Puts a node where the child with this element is looked up. -/
def setChild (b : Branches) (e : Element) (n : Branch) : Branches :=
  match e with
  | .name text => { b with literals := put (·.1) (text, n) b.literals }
  | _ => { b with patterns := put (·.element) n b.patterns }

/-- Adds a rule and tells whether it is new. Nodes that are there already are shared. -/
def insert : Branches → List Element → Branches × Bool
  | b, [] => (b, false)
  | b, e :: rest =>
    let n := b.childOrNew e
    if rest.isEmpty then (b.setChild e { n with isEnd := true }, !n.isEnd)
    else
      let (children, isNew) := n.children.insert rest
      (b.setChild e { n with children }, isNew)

/-- The tree with one more rule. -/
def add (b : Branches) (path : List Element) : Branches := (b.insert path).1

end Branches

/-! ## Listing -/

mutual

/-- The paths of the rules that end at the node or below it. -/
def Branch.paths : Branch → List (List Element)
  | ⟨element, isEnd, children⟩ =>
    (if isEnd then [[element]] else []) ++ children.paths.map (element :: ·)

/-- The paths of all rules. -/
def Branches.paths : Branches → List (List Element)
  | ⟨literals, patterns⟩ => Branches.literalPaths literals ++ Branches.patternPaths patterns

def Branches.literalPaths : List (String × Branch) → List (List Element)
  | [] => []
  | (_, n) :: rest => n.paths ++ Branches.literalPaths rest

def Branches.patternPaths : List Branch → List (List Element)
  | [] => []
  | n :: rest => n.paths ++ Branches.patternPaths rest

end

/-- The texts of all rules in increasing order. -/
def Branches.rules (separator : Char) (b : Branches) : List String :=
  (b.paths.map fun path => Namespace.text ⟨separator, path⟩).mergeSort fun s t => decide (s ≤ t)

end Telemetry

import Telemetry.Regex.Bracket
import Telemetry.Regex.Matcher

/-!
# Reading expressions

An expression is read from left to right with a stack of open groups. Nothing is looked at twice, so
that what stands before a group is read the same way whatever follows it.

Whether an expression is too large is decided by an estimate of its compiled size (`Piece.states`,
`maxStates`). The engine that is modelled measures the memory that its compiled program takes, so an
expression near the limit may be judged the other way there.

* `Piece`: an expression with its nesting depth and an estimate of its compiled size.
* `Reading`: the parts of the current group and the groups around it.
* `Regex.parse`: the expression that a text denotes, or what is wrong with it.
-/

namespace Telemetry.Regex

open Unicode

/-- Why a text denotes no expression. -/
inductive Fault where
  | illFormed
  | tooLarge
deriving Repr, DecidableEq

structure Piece where
  regex : Regex
  depth : Nat
  states : Nat
  /-- Whether a repetition may follow; it may not after a change of flags. -/
  repeatable : Bool

/-- An open group: what stood before it, and the flags that return behind it. -/
structure Group where
  flags : Flags
  pieces : List Piece
  branches : List Piece
  captures : Bool

/-- The parts of the current branch and the branches before it, both latest first, with the open
groups around them. -/
structure Reading where
  flags : Flags := {}
  pieces : List Piece := []
  branches : List Piece := []
  groups : List Group := []
  names : List String := []

/-- Expressions may not be nested more deeply than this. -/
def maxDepth : Nat := 250

/-- About as many states as fit into the memory that an expression may take. -/
def maxStates : Nat := 327680

/-! ## Combining pieces -/

def maxOf (f : Piece → Nat) (pieces : List Piece) : Nat := (pieces.map f).foldl max 0

def sumOf (f : Piece → Nat) (pieces : List Piece) : Nat := (pieces.map f).foldl (· + ·) 0

/-- The concatenation of pieces given in reverse. -/
def Piece.concat : List Piece → Piece
  | [] => ⟨.empty, 0, 1, true⟩
  | [p] => p
  | ps => ⟨cats (ps.reverse.map (·.regex)), 1 + maxOf (·.depth) ps, sumOf (·.states) ps, true⟩

/-- The alternation of branches given in reverse. -/
def Piece.alternate : List Piece → Piece
  | [] => ⟨.empty, 0, 1, true⟩
  | [p] => p
  | ps => ⟨alts (ps.reverse.map (·.regex)), 1 + maxOf (·.depth) ps, 2 + sumOf (·.states) ps, true⟩

def Piece.repeated (p : Piece) (least : Nat) (most : Option Nat) : Piece :=
  let states := match most with
    | none => (max least 1) * p.states + 1
    | some most => least * p.states + (most - least) * (p.states + 1) + 1
  ⟨.repeated p.regex least most, 1 + p.depth, states, true⟩

/-- A set is compiled to about one state, or to a few for every run beyond ASCII. -/
def Piece.ofRegex (r : Regex) (depth : Nat) : Piece :=
  let states := match r with
    | .oneOf s => if s.pieces ≤ 8 then 1 else s.pieces
    | _ => 1
  ⟨r, depth, states, true⟩

/-! ## Steps -/

namespace Reading

def push (r : Reading) (p : Piece) : Reading := { r with pieces := p :: r.pieces }

def content (r : Reading) : Piece :=
  .alternate (Piece.concat r.pieces :: r.branches)

def bar (r : Reading) : Reading :=
  { r with pieces := [], branches := Piece.concat r.pieces :: r.branches }

/-- Opens a group that starts under the given flags. -/
def enter (r : Reading) (flags : Flags) (captures : Bool) : Reading :=
  { r with
    flags, pieces := [], branches := []
    groups := ⟨r.flags, r.pieces, r.branches, captures⟩ :: r.groups }

def leave (r : Reading) : Option Reading :=
  match r.groups with
  | [] => none
  | group :: groups =>
    let inner := r.content
    let piece := ⟨inner.regex, 1 + inner.depth, inner.states + (if group.captures then 2 else 0), true⟩
    some { r with
      flags := group.flags, pieces := piece :: group.pieces, branches := group.branches, groups }

/-- Repeats the last piece. -/
def repeatLast (r : Reading) (least : Nat) (most : Option Nat) : Option Reading :=
  match r.pieces with
  | p :: ps => if p.repeatable then some { r with pieces := p.repeated least most :: ps } else none
  | [] => none

def atom (r : Reading) (a : Atom) : Option Reading :=
  (r.flags.regexOf a).map fun regex => r.push (.ofRegex regex 0)

end Reading

def isNameStart (c : Char) : Bool := c == '_' || isAlphabetic c

def isNamePart (c : Char) : Bool :=
  c == '_' || c == '.' || c == '[' || c == ']' || isAlphanumeric c

/-- Reads the name of a group up to its closing angle. -/
def readName (cs : List Char) : Option (List Char × List Char) :=
  let name := cs.takeWhile (· != '>')
  match cs.dropWhile (· != '>'), name with
  | '>' :: rest, c :: more =>
    if isNameStart c && more.all isNamePart then some (name, rest) else none
  | _, _ => none

def readNamedGroup (r : Reading) (cs : List Char) : Option (Reading × List Char) := do
  let (name, rest) ← readName cs
  let name := String.ofList name
  if r.names.contains name then none
  else some ({ r.enter r.flags true with names := name :: r.names }, rest)

/-- Reads what stands behind an opening parenthesis up to the first part of the group, or a change
of flags up to its end. -/
def readGroup (r : Reading) (cs : List Char) : Option (Reading × List Char) :=
  match skipBlanks r.flags.extended cs with
  | '?' :: 'P' :: '<' :: cs => readNamedGroup r cs
  | '?' :: '<' :: cs => readNamedGroup r cs
  | '?' :: cs =>
    let word := cs.takeWhile fun c => c != ':' && c != ')'
    match cs.dropWhile fun c => c != ':' && c != ')' with
    | ':' :: rest => (r.flags.change word).map fun flags => (r.enter flags false, rest)
    | _ :: rest =>
      if word.isEmpty then none
      else (r.flags.change word).map fun flags =>
        ({ r with flags }.push ⟨.empty, 0, 1, false⟩, rest)
    | [] => none
  | cs => some (r.enter r.flags true, cs)

def dropLazy : List Char → List Char
  | '?' :: rest => rest
  | cs => cs

/-- Reads the next part of an expression. -/
def step (r : Reading) : List Char → Option (Reading × List Char)
  | [] => none
  | '(' :: cs => readGroup r cs
  | ')' :: cs => r.leave.map (·, cs)
  | '|' :: cs => some (r.bar, cs)
  | '[' :: cs =>
    (readBracket r.flags cs).map fun (part, rest) => (r.push (.ofRegex (.oneOf part.set) part.depth), rest)
  | '?' :: cs => (r.repeatLast 0 (some 1)).map (·, dropLazy cs)
  | '*' :: cs => (r.repeatLast 0 none).map (·, dropLazy cs)
  | '+' :: cs => (r.repeatLast 1 none).map (·, dropLazy cs)
  | '{' :: cs => do
    let ((least, most), rest) ← readCounts r.flags.extended cs
    let r' ← r.repeatLast least most
    return (r', match skipBlanks r.flags.extended rest with
      | '?' :: rest => rest
      | rest => rest)
  | '\\' :: cs => do
    let (a, rest) ← readEscape r.flags.extended cs
    let r' ← r.atom a
    return (r', rest)
  | '.' :: cs => (r.atom .dot).map (·, cs)
  | '^' :: cs => (r.atom .caret).map (·, cs)
  | '$' :: cs => (r.atom .dollar).map (·, cs)
  | c :: cs => (r.atom (.char c false)).map (·, cs)

/-- Reads all parts up to the end of the text. -/
def readParts (r : Reading) (cs : List Char) : Option Reading :=
  match skipBlanks r.flags.extended cs with
  | [] => some r
  | c :: rest =>
    match step r (c :: rest) with
    | none => none
    | some (r, behind) => if behind.length < cs.length then readParts r behind else none
termination_by cs.length

/-- The expression that a text denotes. -/
def parse (text : List Char) : Except Fault Regex :=
  match readParts {} text with
  | none => .error .illFormed
  | some r =>
    let whole := r.content
    if !r.groups.isEmpty || maxDepth < whole.depth then .error .illFormed
    else if maxStates < whole.states then .error .tooLarge
    else .ok whole.regex

end Telemetry.Regex

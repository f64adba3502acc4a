import Telemetry.Regex.Escape

/-!
# Bracketed classes

A class between brackets is a union of characters, ranges and classes, which may be nested and
combined by intersection, difference and symmetric difference, all read from the left with equal
strength.

* `SetPart`: a set with the nesting depth of what it was read from.
* `Bracket`: what has been read of one level of a class.
* `readBracket`: reads a whole class behind its opening bracket.
-/

namespace Telemetry.Regex

open Unicode

structure SetPart where
  set : CodeSet
  depth : Nat

inductive SetOp where
  | inter
  | diff
  | symmDiff
deriving Repr, DecidableEq

def SetOp.apply : SetOp → CodeSet → CodeSet → CodeSet
  | inter, a, b => .inter a b
  | diff, a, b => .diff a b
  | symmDiff, a, b => .symmDiff a b

/-- One level of a class: its union so far, and the operation that waits for this union with its
left operand. -/
structure Bracket where
  negated : Bool
  parts : List SetPart
  pending : Option (SetOp × SetPart)

namespace Bracket

def push (b : Bracket) (part : SetPart) : Bracket := { b with parts := part :: b.parts }

/-- The union of the parts; only a union of several counts as a level of nesting. -/
def union (b : Bracket) : SetPart :=
  match b.parts with
  | [] => ⟨.empty, 0⟩
  | [part] => part
  | parts => ⟨.unions (parts.map (·.set)), 1 + (parts.map (·.depth)).foldl max 0⟩

def settled (f : Flags) (b : Bracket) : SetPart :=
  match b.pending with
  | none => b.union
  | some (op, left) =>
    ⟨op.apply (f.fold left.set) (f.fold b.union.set), 1 + max left.depth b.union.depth⟩

def operate (f : Flags) (b : Bracket) (op : SetOp) : Bracket :=
  { b with parts := [], pending := some (op, b.settled f) }

def close (f : Flags) (b : Bracket) : Option SetPart := do
  let set ← f.negate b.negated (f.fold (b.settled f).set)
  return ⟨set, 1 + (b.settled f).depth⟩

end Bracket

/-! ## Parts of a class -/

/-- Starts a level behind its opening bracket: hyphens and a closing bracket that come first stand
for themselves. -/
def openBracket (extended : Bool) (cs : List Char) : Bracket × List Char :=
  let (negated, cs) := match skipBlanks extended cs with
    | '^' :: rest => (true, rest)
    | cs => (false, cs)
  let (hyphens, cs) := collect extended (· != '-') cs
  let parts := hyphens.map fun _ => SetPart.mk (.single '-'.toNat) 0
  match parts, cs with
  | [], ']' :: rest => (⟨negated, [⟨.single ']'.toNat, 0⟩], none⟩, rest)
  | _, _ => (⟨negated, parts, none⟩, cs)

/-- Reads the rest of `[:name:]` behind its first bracket. -/
def readAsciiClass (f : Flags) (cs : List Char) : Option (Option SetPart × List Char) :=
  match cs with
  | ':' :: cs =>
    let (negated, cs) := match cs with
      | '^' :: rest => (true, rest)
      | _ => (false, cs)
    match cs.dropWhile (· != ':') with
    | ':' :: ']' :: rest =>
      let name := String.ofList (cs.takeWhile (· != ':'))
      (asciiClasses.find? (·.1 == name)).map fun (_, s) =>
        ((f.negate negated (f.fold s)).map fun s => ⟨s, 0⟩, rest)
    | _ => none
  | _ => none

def readMember (extended : Bool) : List Char → Option (Atom × List Char)
  | [] => none
  | '\\' :: cs => readEscape extended cs
  | c :: cs => some (.char c false, cs)

/-- The next character that is neither blank nor the mark of a comment. -/
def peekPast : (inComment : Bool) → List Char → Option Char
  | _, [] => none
  | inComment, c :: cs =>
    if isBlank c then peekPast inComment cs
    else if !inComment && c == '#' then peekPast true cs
    else some c

def peekBlanks (extended : Bool) (cs : List Char) : Option Char :=
  if extended then (peekPast false cs).or cs.head? else cs.head?

/-- Reads one member of a class, or a range of characters; a hyphen before a closing bracket or
another hyphen makes no range. -/
def readRange (f : Flags) (cs : List Char) : Option (SetPart × List Char) := do
  let (first, rest) ← readMember f.extended cs
  match skipBlanks f.extended rest with
  | [] => none
  | '-' :: behind =>
    let next := peekBlanks f.extended behind
    if next == some ']' || next == some '-' then
      let s ← f.setOf first
      return (⟨s, 0⟩, '-' :: behind)
    else
      let (last, rest) ← readMember f.extended (skipBlanks f.extended behind)
      let first ← f.member first
      let last ← f.member last
      if first ≤ last then some (⟨.range first last, 0⟩, rest) else none
  | rest =>
    let s ← f.setOf first
    return (⟨s, 0⟩, rest)

/-! ## Whole classes -/

/-- One step through a class: either it ends, or it goes on with a level and the levels around it. -/
inductive BracketStep where
  | ended (part : SetPart) (rest : List Char)
  | open (level : Bracket) (outer : List Bracket) (rest : List Char)

def stepBracket (f : Flags) (level : Bracket) (outer : List Bracket) (cs : List Char) :
    Option BracketStep :=
  match skipBlanks f.extended cs with
  | [] => none
  | '[' :: rest =>
    match readAsciiClass f rest with
    | some (part, rest) => part.map fun part => .open (level.push part) outer rest
    | none =>
      let (inner, rest) := openBracket f.extended rest
      some (.open inner (level :: outer) rest)
  | ']' :: rest => do
    let part ← level.close f
    match outer with
    | [] => some (.ended part rest)
    | up :: outer => some (.open (up.push part) outer rest)
  | '&' :: '&' :: rest => some (.open (level.operate f .inter) outer rest)
  | '-' :: '-' :: rest => some (.open (level.operate f .diff) outer rest)
  | '~' :: '~' :: rest => some (.open (level.operate f .symmDiff) outer rest)
  | cs => (readRange f cs).map fun (part, rest) => .open (level.push part) outer rest

def readLevels (f : Flags) (level : Bracket) (outer : List Bracket) (cs : List Char) :
    Option (SetPart × List Char) :=
  match stepBracket f level outer cs with
  | none => none
  | some (.ended part rest) => some (part, rest)
  | some (.open level outer rest) =>
    if rest.length < cs.length then readLevels f level outer rest else none
termination_by cs.length

/-- Reads a class behind its opening bracket. -/
def readBracket (f : Flags) (cs : List Char) : Option (SetPart × List Char) :=
  let (level, rest) := openBracket f.extended cs
  readLevels f level [] rest

end Telemetry.Regex

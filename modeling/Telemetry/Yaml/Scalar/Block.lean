import Telemetry.Yaml.Cursor

/-!
# Block scalars

Scalars of whole lines. Literal ones keep their line breaks, and folded ones join lines that do not
begin with a blank. The line breaks at the end are cut to one, all kept or all dropped.

* `BlockHeader`: how the lines are indented and how they end.
* `readBlock`: reads a block scalar.
-/

namespace Telemetry.Yaml

inductive Chomping where
  | clip
  | strip
  | keep
deriving Repr, DecidableEq

structure BlockHeader where
  chomping : Chomping := .clip
  /-- By how much the lines are indented, if it is said. -/
  increment : Option Nat := none
deriving Repr, DecidableEq

def readChomping (c : Cursor) : Chomping × Cursor :=
  if c.seesChar 0 '+' then (.keep, c.skip 1)
  else if c.seesChar 0 '-' then (.strip, c.skip 1)
  else (.clip, c)

/-- A digit other than zero, if there is a digit at all. -/
def readIncrement (c : Cursor) : Option (Option Nat × Cursor) :=
  match c.next? with
  | none => some (none, c)
  | some x =>
    if !x.isDigit then some (none, c)
    else if x == '0' then none
    else some (some (x.toNat - '0'.toNat), c.skip 1)

/-- Reads the two parts of a header in any order, and the end of its line. -/
def readHeader (c : Cursor) : Option (BlockHeader × Cursor) := do
  let (chomping, c) := readChomping c
  let (increment, c) ← readIncrement c
  let (chomping, c) :=
    if chomping = .clip ∧ increment.isSome then readChomping c else (chomping, c)
  return ({ chomping, increment }, ← c.finishLine?)

/-- The breaks of empty lines, the deepest indentation among them, and the first line that is not
empty. The indentation is zero as long as it is not known. -/
def readEmptyLines (indent : Nat) : (fuel : Nat) → (breaks : List Char) → (deepest : Nat) →
    Cursor → Option (List Char × Nat × Cursor)
  | 0, _, _, _ => none
  | fuel + 1, breaks, deepest, c =>
    let spaces := (c.rest.takeWhile (· == ' ')).length
    let c := c.skip (if indent = 0 then spaces else min spaces (indent - c.column))
    let deepest := max deepest c.column
    if (indent = 0 || c.column < indent) && c.seesChar 0 '\t' then none
    else if c.sees 0 isBreak then
      readEmptyLines indent fuel (breaks ++ c.lineBreak) deepest c.skipLine
    else some (breaks, deepest, c)

/-- What has been read of a block scalar. -/
structure BlockText where
  text : List Char := []
  lastBreak : List Char := []
  /-- The breaks of the empty lines that follow. -/
  emptyBreaks : List Char := []
  /-- The last line begins with a blank. -/
  indented : Bool := false
deriving Repr, DecidableEq

/-- Adds a line behind what has been read. -/
def BlockText.addLine (literal : Bool) (b : BlockText) (line lineBreak emptyBreaks : List Char) :
    BlockText :=
  let indented := line.head?.any isBlank
  let fold := !literal && b.lastBreak == ['\n'] && !b.indented && !indented
  let joint := if !fold then b.lastBreak else if b.emptyBreaks = [] then [' '] else []
  { text := b.text ++ joint ++ b.emptyBreaks ++ line, lastBreak := lineBreak, emptyBreaks, indented }

def BlockText.finish (chomping : Chomping) (b : BlockText) : List Char :=
  match chomping with
  | .strip => b.text
  | .clip => b.text ++ b.lastBreak
  | .keep => b.text ++ b.lastBreak ++ b.emptyBreaks

def readLines (literal : Bool) (indent : Nat) : (fuel : Nat) → BlockText → Cursor →
    Option (BlockText × Cursor)
  | 0, b, c => some (b, c)
  | fuel + 1, b, c =>
    if c.column ≠ indent ∨ c.rest.isEmpty then some (b, c)
    else do
      let (line, c) := c.span (!isBreak ·)
      let lineBreak := c.lineBreak
      let c := c.skipLine
      let (emptyBreaks, _, c) ← readEmptyLines indent (c.rest.length + 1) [] 0 c
      readLines literal indent fuel (b.addLine literal line lineBreak emptyBreaks) c

/-- Reads a block scalar at its indicator, within a block of the given indentation, which is
negative at the top. -/
def readBlock (literal : Bool) (parent : Int) (c : Cursor) : Option (List Char × Cursor) := do
  let (header, c) ← readHeader (c.skip 1)
  let said := header.increment.elim 0 fun n => (max parent 0).toNat + n
  let (emptyBreaks, deepest, c) ← readEmptyLines said (c.rest.length + 1) [] 0 c
  let indent := if said = 0 then max (max deepest (parent + 1).toNat) 1 else said
  let (b, c) ← readLines literal indent (c.rest.length + 1) { emptyBreaks } c
  return (b.finish header.chomping, c)

end Telemetry.Yaml

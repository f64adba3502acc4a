import Telemetry.Yaml.Scalar.Gap

/-!
# Plain scalars

Scalars without quotes end before a comment, before a colon that ends a word, at a line that is not
indented enough, and, in flow collections, at a bracket or comma.

* `Plain`: the text of a plain scalar, and whether it ends in a line of its own.
* `readPlain`: reads a plain scalar.
-/

namespace Telemetry.Yaml

structure Plain where
  text : List Char
  /-- The lines of the scalar are over, and something else may begin the next line. -/
  brokenOff : Bool
  cursor : Cursor

def isFlowIndicator (x : Char) : Bool :=
  x == ',' || x == '[' || x == ']' || x == '{' || x == '}'

/-- Whether a word ends before the next character. -/
def endsWord (flow : Bool) (c : Cursor) : Bool :=
  c.endsAt 0 || (c.seesChar 0 ':' && c.endsAt 1) || (flow && c.sees 0 isFlowIndicator)

/-- Whether a colon is next that can neither be part of a word nor end it. -/
def badColon (flow : Bool) (c : Cursor) : Bool :=
  flow && c.seesChar 0 ':' && c.sees 1 fun x => isFlowIndicator x || x == '?'

/-- The characters of one word. -/
def readWord (flow : Bool) : (fuel : Nat) → Cursor → Option (List Char × Cursor)
  | 0, c => some ([], c)
  | fuel + 1, c =>
    match c.next? with
    | none => some ([], c)
    | some x =>
      if badColon flow c then none
      else if endsWord flow c then some ([], c)
      else (readWord flow fuel (c.skip 1)).map fun (word, c) => (x :: word, c)

/-- Reads words and gaps. Outside of flow collections, everything but the first line begins at the
given column or behind it. -/
def readWords (flow : Bool) (limit : Nat) : (fuel : Nat) → (text : List Char) → Gap → Cursor →
    Option Plain
  | 0, text, g, c => some ⟨text, g.broken, c⟩
  | fuel + 1, text, g, c =>
    if c.atDocument || c.seesChar 0 '#' then some ⟨text, g.broken, c⟩
    else do
      let (word, c') ← readWord flow (c.rest.length + 1) c
      let (text, g) := if word.isEmpty then (text, g) else (text ++ g.text ++ word, {})
      if !(c'.sees 0 isSpacing) then some ⟨text, g.broken, c'⟩
      else
        let (g, c') ← readGap limit (c'.rest.length + 1) g c'
        if !flow && c'.column < limit then some ⟨text, g.broken, c'⟩
        else readWords flow limit fuel text g c'

def readPlain (flow : Bool) (limit : Nat) (c : Cursor) : Option Plain :=
  readWords flow limit (c.rest.length + 1) [] {} c

end Telemetry.Yaml

import Telemetry.Yaml.Cursor

/-!
# Gaps between words

Scalars that go on over several lines are folded: one line break is a blank, more than one are as
many but one.

* `Gap`: the blanks or line breaks between two words.
* `Gap.text`: what a gap stands for.
* `readGap`: reads a gap.
-/

namespace Telemetry.Yaml

/-- The blanks of a gap within a line, or else its breaks. -/
structure Gap where
  blanks : List Char := []
  broken : Bool := false
  firstBreak : List Char := []
  otherBreaks : List Char := []
deriving Repr, DecidableEq

namespace Gap

/-- A gap that begins with a line break that stands for nothing. -/
def afterEscapedBreak : Gap := { broken := true }

def addBlank (g : Gap) (x : Char) : Gap :=
  if g.broken then g else { g with blanks := g.blanks ++ [x] }

def addBreak (g : Gap) (x : List Char) : Gap :=
  if g.broken then { g with otherBreaks := g.otherBreaks ++ x }
  else { blanks := [], broken := true, firstBreak := x, otherBreaks := [] }

def text (g : Gap) : List Char :=
  if !g.broken then g.blanks
  else if g.firstBreak = ['\n'] then if g.otherBreaks = [] then [' '] else g.otherBreaks
  else g.firstBreak ++ g.otherBreaks

end Gap

/-- Reads on in a gap. Tabs may not stand before the given column in a new line. -/
def readGap (limit : Nat) : (fuel : Nat) → Gap → Cursor → Option (Gap × Cursor)
  | 0, g, c => some (g, c)
  | fuel + 1, g, c =>
    match c.next? with
    | none => some (g, c)
    | some x =>
      if isBlank x then
        if g.broken && x == '\t' && c.column < limit then none
        else readGap limit fuel (g.addBlank x) (c.skip 1)
      else if isBreak x then readGap limit fuel (g.addBreak c.lineBreak) c.skipLine
      else some (g, c)

end Telemetry.Yaml

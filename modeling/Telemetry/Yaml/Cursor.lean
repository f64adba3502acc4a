/-!
# Positions in a YAML text

* `Cursor`: what is left of a text, and where in the text that is.
* `isBreak`, `isBlank`, `isWordChar`, `isAllowed`: the classes of characters.
* `Cursor.skip`, `Cursor.skipLine`, `Cursor.span`: moving on.
* `Cursor.atMark`: whether a document begins or ends here.
-/

namespace Telemetry.Yaml

/-! ## Characters -/

def isBreak (c : Char) : Bool :=
  c == '\n' || c == '\r' || c == '\u0085' || c == '\u2028' || c == '\u2029'

def isBlank (c : Char) : Bool := c == ' ' || c == '\t'

def isSpacing (c : Char) : Bool := isBlank c || isBreak c

/-- Letters and digits of ASCII, hyphens and underscores. -/
def isWordChar (c : Char) : Bool := c.isAlphanum || c == '-' || c == '_'

/-- What may stand in a text at all: no controls but tabs and line breaks, and no noncharacters of
the first plane. -/
def isAllowed (c : Char) : Bool :=
  c == '\t' || c == '\n' || c == '\r' || c == '\u0085' ||
    (0x20 ≤ c.toNat && c.toNat ≤ 0x7E) || (0xA0 ≤ c.toNat && c.toNat ≤ 0xFFFD) ||
    0x10000 ≤ c.toNat

def hexValue? (c : Char) : Option Nat :=
  if c.isDigit then some (c.toNat - '0'.toNat)
  else if 'a' ≤ c ∧ c ≤ 'f' then some (c.toNat - 'a'.toNat + 10)
  else if 'A' ≤ c ∧ c ≤ 'F' then some (c.toNat - 'A'.toNat + 10)
  else none

/-! ## Positions -/

structure Cursor where
  rest : List Char
  index : Nat := 0
  line : Nat := 0
  column : Nat := 0
deriving Repr, DecidableEq

namespace Cursor

def ofText (text : String) : Cursor := { rest := text.toList }

def next? (c : Cursor) : Option Char := c.rest.head?

/-- Whether there is such a character so many places ahead. -/
def sees (c : Cursor) (ahead : Nat) (p : Char → Bool) : Bool := c.rest[ahead]?.any p

def seesChar (c : Cursor) (ahead : Nat) (x : Char) : Bool := c.sees ahead (· == x)

/-- Whether a word ends so many places ahead: at a blank, a line break or the end. -/
def endsAt (c : Cursor) (ahead : Nat) : Bool := c.rest[ahead]?.all isSpacing

/-- Moves on within a line. -/
def skip (c : Cursor) (n : Nat) : Cursor :=
  { c with rest := c.rest.drop n, index := c.index + n, column := c.column + n }

/-- Moves on to the next line, if a line break is next. -/
def skipLine (c : Cursor) : Cursor :=
  match c.rest with
  | '\r' :: '\n' :: rest => { rest, index := c.index + 2, line := c.line + 1 }
  | x :: rest => if isBreak x then { rest, index := c.index + 1, line := c.line + 1 } else c
  | [] => c

/-- What the next line break stands for, if there is one: all breaks but two are the same. -/
def lineBreak (c : Cursor) : List Char :=
  match c.next? with
  | none => []
  | some x => if x = '\u2028' ∨ x = '\u2029' then [x] else if isBreak x then ['\n'] else []

/-- The characters of a class that come next, and the position behind them. None of them may be a
line break. -/
def span (c : Cursor) (p : Char → Bool) : List Char × Cursor :=
  let taken := c.rest.takeWhile p
  (taken, c.skip taken.length)

def skipBlanks (c : Cursor) : Cursor := (c.span isBlank).2

/-- Skips a comment, if one begins here. -/
def skipComment (c : Cursor) : Cursor :=
  if c.seesChar 0 '#' then (c.span (!isBreak ·)).2 else c

/-- Moves behind the line, of which only blanks and a comment may be left. -/
def finishLine? (c : Cursor) : Option Cursor :=
  let c := c.skipBlanks.skipComment
  if c.rest.isEmpty || c.sees 0 isBreak then some c.skipLine else none

/-- Whether a line begins here with a character three times and nothing close behind it. -/
def atMark (c : Cursor) (x : Char) : Bool :=
  c.column == 0 && c.seesChar 0 x && c.seesChar 1 x && c.seesChar 2 x && c.endsAt 3

/-- Whether a document begins or ends here. -/
def atDocument (c : Cursor) : Bool := c.atMark '-' || c.atMark '.'

end Cursor

end Telemetry.Yaml

import Telemetry.Yaml.Scalar.Gap

/-!
# Quoted scalars

Between single quotes only the quote is special, and is written twice. Between double quotes a
backslash begins an escape. Both are folded.

* `escape?`: what an escape stands for.
* `readQuoted`: reads a quoted scalar.
-/

namespace Telemetry.Yaml

/-- An escape of one character, or the number of hexadecimal digits that follow it. -/
inductive Escape where
  | char (c : Char)
  | digits (n : Nat)
deriving Repr, DecidableEq

def escape? : Char → Option Escape
  | '0' => some (.char '\x00')
  | 'a' => some (.char '\x07')
  | 'b' => some (.char '\x08')
  | 't' | '\t' => some (.char '\t')
  | 'n' => some (.char '\n')
  | 'v' => some (.char '\x0B')
  | 'f' => some (.char '\x0C')
  | 'r' => some (.char '\r')
  | 'e' => some (.char '\x1B')
  | ' ' => some (.char ' ')
  | '"' => some (.char '"')
  | '/' => some (.char '/')
  | '\\' => some (.char '\\')
  | 'N' => some (.char '\u0085')
  | '_' => some (.char '\u00A0')
  | 'L' => some (.char '\u2028')
  | 'P' => some (.char '\u2029')
  | 'x' => some (.digits 2)
  | 'u' => some (.digits 4)
  | 'U' => some (.digits 8)
  | _ => none

/-- The character with a number of so many hexadecimal digits. -/
def numbered? (digits : Nat) (cs : List Char) : Option Char := do
  if cs.length < digits then none
  let values ← (cs.take digits).mapM hexValue?
  let n := values.foldl (fun n d => 16 * n + d) 0
  if n.isValidChar then some (Char.ofNat n) else none

/-- The escape behind a backslash, and how many characters it takes with the backslash. -/
def readEscape (cs : List Char) : Option (Char × Nat) :=
  match cs with
  | [] => none
  | x :: rest =>
    match escape? x with
    | none => none
    | some (.char c) => some (c, 2)
    | some (.digits n) => (numbered? n rest).map (·, n + 2)

/-- What ends a run of characters: the closing quote, a gap, or a line break behind a backslash. -/
inductive RunEnd where
  | closing
  | gap
  | escapedBreak
deriving Repr, DecidableEq

/-- Reads characters up to a blank, a break or the closing quote. -/
def readRun (single : Bool) : (fuel : Nat) → Cursor → Option (List Char × RunEnd × Cursor)
  | 0, _ => none
  | fuel + 1, c =>
    let add (x : Char) (n : Nat) :=
      (readRun single fuel (c.skip n)).map fun (run, stop, c) => (x :: run, stop, c)
    match c.next? with
    | none => some ([], .gap, c)
    | some x =>
      if isSpacing x then some ([], .gap, c)
      else if single then
        if x != '\'' then add x 1
        else if c.seesChar 1 '\'' then add x 2
        else some ([], .closing, c)
      else if x == '"' then some ([], .closing, c)
      else if x != '\\' then add x 1
      else if c.sees 1 isBreak then some ([], .escapedBreak, (c.skip 1).skipLine)
      else do
        let (y, n) ← readEscape (c.rest.drop 1)
        add y n

/-- Reads runs and gaps behind the opening quote up to the closing one. -/
def readRuns (single : Bool) : (fuel : Nat) → (text : List Char) → Cursor →
    Option (List Char × Cursor)
  | 0, _, _ => none
  | fuel + 1, text, c =>
    if c.atDocument || c.rest.isEmpty then none
    else do
      let (run, stop, c) ← readRun single (c.rest.length + 1) c
      let text := text ++ run
      let closing := if single then '\'' else '"'
      if c.seesChar 0 closing then some (text, c.skip 1)
      else
        let start := if stop = .escapedBreak then Gap.afterEscapedBreak else {}
        let (g, c) ← readGap 0 (c.rest.length + 1) start c
        readRuns single fuel (text ++ g.text) c

/-- Reads a quoted scalar at its opening quote. -/
def readQuoted (single : Bool) (c : Cursor) : Option (List Char × Cursor) :=
  readRuns single (c.rest.length + 1) [] (c.skip 1)

end Telemetry.Yaml

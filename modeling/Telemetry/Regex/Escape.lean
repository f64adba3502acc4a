import Telemetry.Regex.Atom

/-!
# Escapes and counts

The readers of what follows a backslash and of the counts between braces. Each takes the characters
that are left and returns what it read with the characters behind it, or nothing if they do not
start with what it reads.

* `skipBlanks`, `collect`: passing over blanks and comments, where the flags allow them.
* `readEscape`: the atom after a backslash.
* `readCounts`: the bounds of a repetition.
-/

namespace Telemetry.Regex

open Unicode

/-! ## Blanks and comments -/

/-- Drops leading blanks and comments; a comment runs to the end of its line. -/
def skipComments : (inComment : Bool) → List Char → List Char
  | _, [] => []
  | true, c :: cs => skipComments (c != '\n') cs
  | false, c :: cs =>
    if isBlank c then skipComments false cs
    else if c = '#' then skipComments true cs
    else c :: cs

def skipBlanks (extended : Bool) (cs : List Char) : List Char :=
  if extended then skipComments false cs else cs

def collectFrom (extended : Bool) (stop : Char → Bool) :
    (inComment : Bool) → List Char → List Char × List Char
  | _, [] => ([], [])
  | true, c :: cs => collectFrom extended stop (c != '\n') cs
  | false, c :: cs =>
    if extended && isBlank c then collectFrom extended stop false cs
    else if extended && c == '#' then collectFrom extended stop true cs
    else if stop c then ([], c :: cs)
    else
      let (taken, rest) := collectFrom extended stop false cs
      (c :: taken, rest)

/-- The characters before the first at which `stop` holds, without blanks and comments where these
are skipped, and the rest from there. -/
def collect (extended : Bool) (stop : Char → Bool) (cs : List Char) : List Char × List Char :=
  collectFrom extended stop false cs

/-! ## Characters by number -/

def isHexDigit (c : Char) : Bool :=
  c.isDigit || ('a' ≤ c && c ≤ 'f') || ('A' ≤ c && c ≤ 'F')

def charOfHex (digits : List Char) : Option Char :=
  let n := Run.number digits
  if n.isValidChar then some (Char.ofNat n) else none

def readHexDigits (extended : Bool) : Nat → List Char → Option (List Char × List Char)
  | 0, cs => some ([], cs)
  | _ + 1, [] => none
  | n + 1, c :: cs =>
    if isHexDigit c then
      (readHexDigits extended n (skipBlanks extended cs)).map fun (ds, rest) => (c :: ds, rest)
    else none

/-- What follows `\x`, `\u` or `\U`: that many digits, or any number of them between braces. -/
def readHex (extended : Bool) (count : Nat) (cs : List Char) : Option (Atom × List Char) :=
  match skipBlanks extended cs with
  | '{' :: cs =>
    match collect extended (· == '}') cs with
    | ([], _) => none
    | (digits, '}' :: rest) =>
      if digits.all isHexDigit then (charOfHex digits).map fun c => (.char c false, rest) else none
    | _ => none
  | cs => do
    let (digits, rest) ← readHexDigits extended count cs
    let c ← charOfHex digits
    return (.char c (count == 2), rest)

/-! ## Properties -/

/-- Splits a property query at the first `!=`, or else at the first `:`, or else at the first `=`. -/
def splitQuery (name : List Char) : Option (List Char × List Char) :=
  let rec unequal : List Char → Option (List Char × List Char)
    | '!' :: '=' :: rest => some ([], rest)
    | c :: rest => (unequal rest).map fun (a, b) => (c :: a, b)
    | [] => none
  let splitAt (mark : Char) :=
    if name.contains mark then
      some (name.takeWhile (· != mark), (name.dropWhile (· != mark)).drop 1)
    else none
  (unequal name).or ((splitAt ':').or (splitAt '='))

def querySet (query : List Char) : Option CodeSet :=
  match splitQuery query with
  | some (name, value) => propertyValueSet name value
  | none => propertySet query

/-- What follows `\p` or `\P`: a letter, or a query between braces. -/
def readProperty (extended negated : Bool) (cs : List Char) : Option (Atom × List Char) :=
  match skipBlanks extended cs with
  | '{' :: cs =>
    match collect extended (· == '}') cs with
    | (query, '}' :: rest) => (querySet query).map fun s => (.property s negated, rest)
    | _ => none
  | c :: rest => if c = '\\' then none else (propertySet [c]).map fun s => (.property s negated, rest)
  | [] => none

/-! ## Escapes -/

/-- Every ASCII character can be escaped to stand for itself, letters, digits and angles apart. -/
def isEscapable (c : Char) : Bool :=
  c.toNat < 0x80 && !(c.isAlphanum || c == '<' || c == '>')

def isEdgeLetter (c : Char) : Bool := c.isAlpha || c == '-'

/-- What follows `\b`: the name of a word edge between braces, or nothing that belongs to it. -/
def readEdge (extended : Bool) (cs : List Char) : Option (Atom × List Char) :=
  match cs with
  | '{' :: inner =>
    match skipBlanks extended inner with
    | [] => none
    | c :: _ =>
      if isEdgeLetter c then
        match collect extended (!isEdgeLetter ·) inner with
        | (name, '}' :: rest) =>
          match String.ofList name with
          | "start" => some (.edge .start, rest)
          | "end" => some (.edge .finish, rest)
          | "start-half" => some (.edge .startHalf, rest)
          | "end-half" => some (.edge .finishHalf, rest)
          | _ => none
        | _ => none
      else some (.edge .boundary, cs)
  | _ => some (.edge .boundary, cs)

/-- Reads what stands after a backslash. -/
def readEscape (extended : Bool) : List Char → Option (Atom × List Char)
  | [] => none
  | c :: cs =>
    if isEscapable c then some (.char c false, cs)
    else match c with
      | 'x' => readHex extended 2 cs
      | 'u' => readHex extended 4 cs
      | 'U' => readHex extended 8 cs
      | 'p' => readProperty extended false cs
      | 'P' => readProperty extended true cs
      | 'd' => some (.shorthand .digit false, cs)
      | 'D' => some (.shorthand .digit true, cs)
      | 's' => some (.shorthand .space false, cs)
      | 'S' => some (.shorthand .space true, cs)
      | 'w' => some (.shorthand .word false, cs)
      | 'W' => some (.shorthand .word true, cs)
      | 'a' => some (.char '\x07' false, cs)
      | 'f' => some (.char '\x0C' false, cs)
      | 't' => some (.char '\t' false, cs)
      | 'n' => some (.char '\n' false, cs)
      | 'r' => some (.char '\r' false, cs)
      | 'v' => some (.char '\x0B' false, cs)
      | 'A' => some (.look .textStart, cs)
      | 'z' => some (.look .textEnd, cs)
      | 'b' => readEdge extended cs
      | 'B' => some (.edge .inside, cs)
      | '<' => some (.edge .start, cs)
      | '>' => some (.edge .finish, cs)
      | _ => none

/-! ## Counts -/

/-- The largest count that a repetition may name. -/
def maxCount : Nat := 0xFFFFFFFF

def readCount (extended : Bool) (cs : List Char) : Option (Nat × List Char) :=
  let (digits, rest) :=
    collect extended (!·.isDigit) ((skipBlanks extended cs).dropWhile isBlank)
  let n := digits.foldl (fun n c => 10 * n + Run.digit c) 0
  if digits.isEmpty || maxCount < n then none else some (n, rest.dropWhile isBlank)

/-- What follows the opening brace of a repetition: one count, a lower bound, or both bounds in
order. -/
def readCounts (extended : Bool) (cs : List Char) : Option ((Nat × Option Nat) × List Char) := do
  let (least, rest) ← readCount extended cs
  match rest with
  | '}' :: rest => some ((least, some least), rest)
  | ',' :: rest =>
    match skipBlanks extended rest with
    | '}' :: rest => some ((least, none), rest)
    | rest =>
      let (most, rest) ← readCount extended rest
      match rest with
      | '}' :: rest => if least ≤ most then some ((least, some most), rest) else none
      | _ => none
  | _ => none

end Telemetry.Regex

import Telemetry.Json.Basic

/-!
# Reading JSON

Every reader takes the characters that are left and returns what it read with the characters behind
it. What a number is worth that is not whole is left to `readFloat`, which is given all of its text
and may find it to be beyond all numbers.

* `Json.readNumber`: the kind of a number, by what is written behind its digits.
* `Json.parse`: the value that a whole text denotes.
-/

namespace Telemetry.Json

def isSpace (c : Char) : Bool := c == ' ' || c == '\n' || c == '\t' || c == '\r'

def skipSpaces (cs : List Char) : List Char := cs.dropWhile isSpace

/-! ## Numbers -/

/-- Digits without a leading zero, at least one. -/
def readWhole (cs : List Char) : Option (List Char × List Char) :=
  match cs.takeWhile Char.isDigit with
  | [] => none
  | '0' :: _ :: _ => none
  | digits => some (digits, cs.dropWhile Char.isDigit)

/-- A point and the digits behind it, if there is a point. -/
def readFraction : List Char → Option (List Char × List Char)
  | '.' :: cs =>
    match cs.takeWhile Char.isDigit with
    | [] => none
    | digits => some ('.' :: digits, cs.dropWhile Char.isDigit)
  | cs => some ([], cs)

def takeSign : List Char → List Char × List Char
  | '-' :: cs => (['-'], cs)
  | '+' :: cs => (['+'], cs)
  | cs => ([], cs)

/-- An exponent with its mark and its sign, if there is one. -/
def readExponent : List Char → Option (List Char × List Char)
  | e :: cs =>
    if e = 'e' ∨ e = 'E' then
      let (sign, cs) := takeSign cs
      match cs.takeWhile Char.isDigit with
      | [] => none
      | digits => some (e :: (sign ++ digits), cs.dropWhile Char.isDigit)
    else some ([], e :: cs)
  | [] => some ([], [])

section Floats

variable (readFloat : String → Option Double)

def floatOf (text : String) : Json :=
  match readFloat text with
  | some x => number (.float x)
  | none => invalid

/-- The value of a number with these digits, and what is written behind them. It is whole if there
is nothing and it fits into 64 bits; a zero with a sign is floating. -/
def numberOf (negative : Bool) (whole behind : List Char) : Json :=
  let n := Double.readDigits whole
  if behind.isEmpty && !negative && n ≤ JsonNumber.maxNatural then number (.natural n)
  else if behind.isEmpty && negative && 0 < n && n ≤ JsonNumber.maxNegative then
    number (.negative n)
  else floatOf readFloat (Double.signed negative (whole ++ behind))

/-- Reads a number behind its sign. -/
def readUnsigned (negative : Bool) (cs : List Char) : Option (Json × List Char) := do
  let (whole, cs) ← readWhole cs
  let (fraction, cs) ← readFraction cs
  let (exponent, cs) ← readExponent cs
  return (numberOf readFloat negative whole (fraction ++ exponent), cs)

def readNumber : List Char → Option (Json × List Char)
  | '-' :: cs => readUnsigned readFloat true cs
  | cs => readUnsigned readFloat false cs

end Floats

/-! ## Strings -/

def hexValue (c : Char) : Option Nat :=
  if c.isDigit then some (c.toNat - '0'.toNat)
  else if 'a' ≤ c ∧ c ≤ 'f' then some (c.toNat - 'a'.toNat + 10)
  else if 'A' ≤ c ∧ c ≤ 'F' then some (c.toNat - 'A'.toNat + 10)
  else none

def hexUnit (a b c d : Char) : Option Nat := do
  return 4096 * (← hexValue a) + 256 * (← hexValue b) + 16 * (← hexValue c) + (← hexValue d)

def simpleEscape : Char → Option Char
  | '"' => some '"'
  | '\\' => some '\\'
  | '/' => some '/'
  | 'b' => some '\x08'
  | 'f' => some '\x0C'
  | 'n' => some '\n'
  | 'r' => some '\r'
  | 't' => some '\t'
  | _ => none

/-- A part of a string: a character, or a unit of 16 bits by its number. -/
inductive Piece where
  | char (c : Char)
  | unit (n : Nat)

/-- Reads the parts of a string behind its opening quote. -/
def readPieces : List Char → Option (List Piece × List Char)
  | [] => none
  | '"' :: cs => some ([], cs)
  | '\\' :: 'u' :: a :: b :: c :: d :: cs => do
    let n ← hexUnit a b c d
    let (pieces, rest) ← readPieces cs
    return (.unit n :: pieces, rest)
  | '\\' :: e :: cs => do
    let c ← simpleEscape e
    let (pieces, rest) ← readPieces cs
    return (.char c :: pieces, rest)
  | c :: cs =>
    if c = '\\' ∨ c.toNat < 0x20 then none
    else (readPieces cs).map fun (pieces, rest) => (.char c :: pieces, rest)

/-- The characters of the parts; units above the basic plane come in pairs. -/
def joinPieces : List Piece → Option (List Char)
  | [] => some []
  | .char c :: rest => (joinPieces rest).map (c :: ·)
  | .unit n :: rest =>
    if 0xD800 ≤ n ∧ n < 0xDC00 then
      match rest with
      | .unit m :: rest =>
        if 0xDC00 ≤ m ∧ m < 0xE000 then
          (joinPieces rest).map (Char.ofNat (0x10000 + (n - 0xD800) * 0x400 + (m - 0xDC00)) :: ·)
        else none
      | _ => none
    else if 0xDC00 ≤ n ∧ n < 0xE000 then none
    else (joinPieces rest).map (Char.ofNat n :: ·)

/-- Reads a string behind its opening quote; it is missing if its units are no text. -/
def readString (cs : List Char) : Option (Option String × List Char) :=
  (readPieces cs).map fun (pieces, rest) => ((joinPieces pieces).map String.ofList, rest)

/-! ## Values -/

section Values

variable (readFloat : String → Option Double)

mutual
/-- Reads a value of at most so many characters. -/
def readValue : (fuel : Nat) → List Char → Option (Json × List Char)
  | 0, _ => none
  | fuel + 1, cs =>
    match skipSpaces cs with
    | 'n' :: 'u' :: 'l' :: 'l' :: cs => some (null, cs)
    | 't' :: 'r' :: 'u' :: 'e' :: cs => some (bool true, cs)
    | 'f' :: 'a' :: 'l' :: 's' :: 'e' :: cs => some (bool false, cs)
    | '"' :: cs => (readString cs).map fun (s, rest) => (s.elim invalid string, rest)
    | '[' :: cs =>
      match skipSpaces cs with
      | ']' :: cs => some (array [], cs)
      | cs => (readItems fuel cs).map fun (items, rest) => (array items, rest)
    | '{' :: cs =>
      match skipSpaces cs with
      | '}' :: cs => some (object [], cs)
      | cs => (readMembers fuel cs).map fun (members, rest) => (members.elim invalid object, rest)
    | cs => readNumber readFloat cs

/-- Reads the items of an array up to its closing bracket. -/
def readItems : (fuel : Nat) → List Char → Option (List Json × List Char)
  | 0, _ => none
  | fuel + 1, cs => do
    let (item, rest) ← readValue fuel cs
    match skipSpaces rest with
    | ']' :: rest => return ([item], rest)
    | ',' :: rest =>
      let (items, rest) ← readItems fuel rest
      return (item :: items, rest)
    | _ => none

/-- Reads the members of an object up to its closing brace; they are missing if a key is no text. -/
def readMembers : (fuel : Nat) → List Char → Option (Option (List (String × Json)) × List Char)
  | 0, _ => none
  | fuel + 1, cs => do
    match skipSpaces cs with
    | '"' :: rest =>
      let (key, rest) ← readString rest
      match skipSpaces rest with
      | ':' :: rest =>
        let (value, rest) ← readValue fuel rest
        match skipSpaces rest with
        | '}' :: rest => return (key.map fun key => [(key, value)], rest)
        | ',' :: rest =>
          let (members, rest) ← readMembers fuel rest
          return (do return (← key, value) :: (← members), rest)
        | _ => none
      | _ => none
    | _ => none
end

/-- The value that a text denotes. -/
def parse (text : String) : Option Json := do
  let cs := text.toList
  let (value, rest) ← readValue readFloat (2 * cs.length + 2) cs
  if (skipSpaces rest).isEmpty then some value else none

end Values

end Telemetry.Json

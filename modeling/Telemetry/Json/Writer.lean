import Telemetry.Json.Basic

/-!
# Writing JSON

Values are written without blanks. In strings the quote, the backslash and the characters below the
blank are escaped, and nothing else.

* `Json.quote`: a string between quotes.
* `Json.write`: the text of a value.
-/

namespace Telemetry.Json

def hexDigit (n : Nat) : Char := (Nat.toDigits 16 n).headD '0'

def escapeChar (c : Char) : List Char :=
  if c = '"' then ['\\', '"']
  else if c = '\\' then ['\\', '\\']
  else if c = '\x08' then ['\\', 'b']
  else if c = '\x0C' then ['\\', 'f']
  else if c = '\n' then ['\\', 'n']
  else if c = '\r' then ['\\', 'r']
  else if c = '\t' then ['\\', 't']
  else if c.toNat < 0x20 then ['\\', 'u', '0', '0', hexDigit (c.toNat / 16), hexDigit (c.toNat % 16)]
  else [c]

def quote (s : String) : List Char := '"' :: (s.toList.flatMap escapeChar ++ ['"'])

mutual
def chars : Json → List Char
  | null | invalid => "null".toList
  | bool true => "true".toList
  | bool false => "false".toList
  | number n => n.text.toList
  | string s => quote s
  | array [] => ['[', ']']
  | array (item :: rest) => '[' :: (item.chars ++ charsOfItems rest)
  | object [] => ['{', '}']
  | object ((key, value) :: rest) => '{' :: (quote key ++ ':' :: (value.chars ++ charsOfMembers rest))

/-- The items after the first, each behind a comma, and the closing bracket. -/
def charsOfItems : List Json → List Char
  | [] => [']']
  | item :: rest => ',' :: (item.chars ++ charsOfItems rest)

def charsOfMembers : List (String × Json) → List Char
  | [] => ['}']
  | (key, value) :: rest => ',' :: (quote key ++ ':' :: (value.chars ++ charsOfMembers rest))
end

def write (j : Json) : String := String.ofList j.chars

end Telemetry.Json

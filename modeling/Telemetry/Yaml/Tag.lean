import Telemetry.Yaml.Cursor
import Telemetry.Yaml.Token

/-!
# Tags, anchors and directives

* `readTag`: a tag in any of its three forms.
* `readName`: the name of an anchor or an alias.
* `readDirective`: a line that says which version of the format follows, or what a handle stands
  for.
-/

namespace Telemetry.Yaml

/-! ## Tags -/

/-- What may stand in a tag without an escape. -/
def isTagChar (verbatim : Bool) (x : Char) : Bool :=
  isWordChar x || ";/?:@&=+$.!~*'()".toList.contains x || (verbatim && ",[]".toList.contains x)

/-- How many octets belong to a character that begins with this one. -/
def octetCount (octet : Nat) : Nat :=
  if octet < 0x80 then 1
  else if 0xC0 ≤ octet ∧ octet < 0xE0 then 2
  else if 0xE0 ≤ octet ∧ octet < 0xF0 then 3
  else if 0xF0 ≤ octet ∧ octet < 0xF8 then 4
  else 0

/-- An octet as two hexadecimal digits behind a percent sign. -/
def readOctet (c : Cursor) : Option (Nat × Cursor) :=
  match c.rest with
  | '%' :: a :: b :: _ => do return (16 * (← hexValue? a) + (← hexValue? b), c.skip 3)
  | _ => none

/-- The octets that go on with a character, as one number behind the given one. -/
def readOctets : (count : Nat) → (n : Nat) → Cursor → Option (Nat × Cursor)
  | 0, n, c => some (n, c)
  | count + 1, n, c => do
    let (octet, c) ← readOctet c
    if octet / 0x40 = 2 then readOctets count (0x40 * n + octet % 0x40) c else none

/-- An escaped character. -/
def readEscapedChar (c : Cursor) : Option (Char × Cursor) := do
  let (octet, c) ← readOctet c
  match octetCount octet with
  | 0 => none
  | 1 => some (Char.ofNat octet, c)
  | count + 1 =>
    let (n, c) ← readOctets count (octet % (1 <<< (6 - count))) c
    return (Char.ofNat n, c)

def readTagChars (verbatim : Bool) : (fuel : Nat) → Cursor → Option (List Char × Cursor)
  | 0, c => some ([], c)
  | fuel + 1, c =>
    match c.next? with
    | none => some ([], c)
    | some x =>
      if x == '%' then do
        let (y, c) ← readEscapedChar c
        let (more, c) ← readTagChars verbatim fuel c
        return (y :: more, c)
      else if isTagChar verbatim x then
        (readTagChars verbatim fuel (c.skip 1)).map fun (more, c) => (x :: more, c)
      else some ([], c)

/-- At least one character of a tag. -/
def readTagText (verbatim : Bool) (c : Cursor) : Option (List Char × Cursor) := do
  let (text, c) ← readTagChars verbatim (c.rest.length + 1) c
  if text.isEmpty then none else some (text, c)

/-- A word between exclamation marks, of which the second may be missing. -/
def readHandle (c : Cursor) : Option (List Char × Cursor) :=
  if !c.seesChar 0 '!' then none
  else
    let (word, c) := (c.skip 1).span isWordChar
    if c.seesChar 0 '!' then some ('!' :: (word ++ ['!']), c.skip 1) else some ('!' :: word, c)

/-- Whether a handle has both of its exclamation marks. -/
def isWholeHandle (handle : List Char) : Bool :=
  1 < handle.length && handle.getLast? == some '!'

/-- A tag between angle brackets, or behind a handle, or behind an exclamation mark. The mark alone
is a tag too. -/
def readTagParts (c : Cursor) : Option (Token × Cursor) :=
  if c.seesChar 1 '<' then do
    let (text, c) ← readTagText true (c.skip 2)
    if c.seesChar 0 '>' then some (.tag "" (.ofList text), c.skip 1) else none
  else do
    let (handle, c) ← readHandle c
    if isWholeHandle handle then
      let (suffix, c) ← readTagText false c
      return (.tag (.ofList handle) (.ofList suffix), c)
    else
      let (more, c) ← readTagChars false (c.rest.length + 1) c
      let suffix := handle.drop 1 ++ more
      return (if suffix.isEmpty then .tag "" "!" else .tag "!" (.ofList suffix), c)

/-- A tag with a blank or a break behind it, or a comma in a flow collection. -/
def readTag (flow : Bool) (c : Cursor) : Option (Token × Cursor) := do
  let (token, c) ← readTagParts c
  if c.endsAt 0 || (flow && c.seesChar 0 ',') then some (token, c) else none

/-! ## Anchors -/

def mayFollowName (x : Char) : Bool := "?:,]\x7d%@\x60".toList.contains x

/-- The name behind the indicator of an anchor or an alias. -/
def readName (c : Cursor) : Option (String × Cursor) :=
  let (name, c) := (c.skip 1).span isWordChar
  if name.isEmpty || !(c.endsAt 0 || c.sees 0 mayFollowName) then none
  else some (.ofList name, c)

/-! ## Directives -/

/-- A number of at most nine digits. -/
def readNumber (c : Cursor) : Option (Nat × Cursor) :=
  let (digits, c) := c.span Char.isDigit
  if digits.isEmpty || 9 < digits.length then none
  else some (digits.foldl (fun n d => 10 * n + (d.toNat - '0'.toNat)) 0, c)

def readVersion (c : Cursor) : Option (Token × Cursor) := do
  let (major, c) ← readNumber c
  if c.seesChar 0 '.' then
    let (minor, c) ← readNumber (c.skip 1)
    return (.version major minor, c)
  else none

def readTagDirective (c : Cursor) : Option (Token × Cursor) := do
  let (handle, c) ← readHandle c
  if !(isWholeHandle handle || handle == ['!']) then none
  else if !c.sees 0 isBlank then none
  else
    let (start, c) ← readTagText true c.skipBlanks
    if c.endsAt 0 then some (.tagDirective (.ofList handle) (.ofList start), c) else none

/-- A directive at its percent sign, with the rest of its line. -/
def readDirective (c : Cursor) : Option (Token × Cursor) := do
  let (name, c) := (c.skip 1).span isWordChar
  if !c.endsAt 0 then none
  else
    let (token, c) ← match String.ofList name with
      | "YAML" => readVersion c.skipBlanks
      | "TAG" => readTagDirective c.skipBlanks
      | _ => none
    return (token, ← c.finishLine?)

end Telemetry.Yaml

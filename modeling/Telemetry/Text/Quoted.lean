import Telemetry.Unicode.Character

/-!
# Quoted text

Text between quotes in which everything can be seen: quotes, backslashes and line breaks are
escaped, and so is, by its number, every character that has no shape of its own.

* `isShown`: the characters that stand for themselves.
* `quoted`: a text between quotes.
-/

namespace Telemetry.Text

open Unicode

/-- Characters without a shape: controls, formats, all blanks but the plain one, private and
unassigned ones. -/
def hidden : CodeSet :=
  .union (categories ["Cc", "Cf", "Zs", "Zl", "Zp", "Co"]) (.compl assigned)

/-- Characters that join the one before them. -/
def joining : CodeSet := .runs graphemeExtendRuns

def isShown (c : Char) : Bool :=
  (0x20 ≤ c.toNat && c.toNat < 0x7F) || !(hidden.contains c.toNat || joining.contains c.toNat)

/-- The number of a character between braces, in the fewest hexadecimal digits. -/
def numbered (c : Char) : List Char :=
  ['\\', 'u', '{'] ++ Nat.toDigits 16 c.toNat ++ ['}']

def escaped (c : Char) : List Char :=
  if c = '\x00' then ['\\', '0']
  else if c = '\t' then ['\\', 't']
  else if c = '\r' then ['\\', 'r']
  else if c = '\n' then ['\\', 'n']
  else if c = '\\' ∨ c = '"' then ['\\', c]
  else if isShown c then [c]
  else numbered c

def quoted (s : String) : String := String.ofList ('"' :: (s.toList.flatMap escaped ++ ['"']))

end Telemetry.Text

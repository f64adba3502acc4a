import Telemetry.Unicode.Category
import Telemetry.Unicode.CodeSet
import Telemetry.Unicode.PropertyTable

/-!
# Character classes

The classes of characters that the readers of this library ask about, by the tables of the standard.

* `categories`: the union of some general categories.
* `alphabetic`, `lowercase`, `uppercase`: the derived letter properties.
* `isBlank`, `isAlphabetic`, `isAlphanumeric`: the questions as functions on characters.
-/

namespace Telemetry.Unicode

def categoryNamed (name : String) : CodeSet :=
  .runs (((categoryRuns.find? (·.1 == name)).map (·.2)).getD [])

/-- All code points whose general category is among those named. -/
def categories (names : List String) : CodeSet :=
  .unions (names.map categoryNamed)

/-- Every code point that has a category of its own. -/
def assigned : CodeSet := .unions (categoryRuns.map fun entry => .runs entry.2)

def letters : CodeSet := categories ["Lu", "Ll", "Lt", "Lm", "Lo"]

def marks : CodeSet := categories ["Mn", "Mc", "Me"]

def numbers : CodeSet := categories ["Nd", "Nl", "No"]

def decimalDigits : CodeSet := categories ["Nd"]

def lowercase : CodeSet := .union (categories ["Ll"]) (.runs otherLowercaseRuns)

def uppercase : CodeSet := .union (categories ["Lu"]) (.runs otherUppercaseRuns)

def alphabetic : CodeSet :=
  .unions [lowercase, uppercase, categories ["Lt", "Lm", "Lo", "Nl"], .runs otherAlphabeticRuns]

def blanks : CodeSet := .runs whiteSpaceRuns

/-- What a word is made of: letters, marks, digits, connectors and joiners. -/
def wordCharacters : CodeSet :=
  .unions [alphabetic, marks, decimalDigits, categories ["Pc"], .runs joinControlRuns]

/-! ## Questions about one character

For ASCII the answers are known, and the tables are asked about the other characters only. -/

def isTabled (set : CodeSet) (c : Char) : Bool := 127 < c.toNat && set.contains c.toNat

def isBlank (c : Char) : Bool := c == ' ' || ('\t' ≤ c && c ≤ '\r') || isTabled blanks c

def isAlphabetic (c : Char) : Bool := c.isAlpha || isTabled alphabetic c

def isAlphanumeric (c : Char) : Bool :=
  c.isAlphanum || isTabled alphabetic c || isTabled numbers c

theorem isAlphanumeric_of_isAlphanum {c : Char} (h : c.isAlphanum = true) :
    isAlphanumeric c = true := by
  simp [isAlphanumeric, h]

end Telemetry.Unicode

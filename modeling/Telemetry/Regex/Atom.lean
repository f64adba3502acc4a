import Telemetry.Regex.Basic
import Telemetry.Unicode.Property

/-!
# Flags and atoms

The flags that change what an expression means, the smallest parts of an expression, and the sets
that these stand for under given flags. Without the Unicode flag an expression may only name ASCII
characters in sets, so sets that would hold a byte beyond ASCII are refused.

* `Flags`, `Flags.change`: the flags and the effect of a word such as `i-s`.
* `Atom`: a literal, a class or an assertion as it is written.
* `Flags.setOf`, `Flags.regexOf`: the set or expression that an atom stands for.
-/

namespace Telemetry.Regex

open Unicode

structure Flags where
  caseInsensitive : Bool := false
  multiLine : Bool := false
  dotAll : Bool := false
  unicode : Bool := true
  crlf : Bool := false
  /-- Blanks and comments between the parts of an expression are skipped. -/
  extended : Bool := false
deriving Repr, DecidableEq

namespace Flags

/-- Sets one flag by its letter; the letter for greed changes no match and is only accepted. -/
def put (f : Flags) (value : Bool) : Char → Option Flags
  | 'i' => some { f with caseInsensitive := value }
  | 'm' => some { f with multiLine := value }
  | 's' => some { f with dotAll := value }
  | 'u' => some { f with unicode := value }
  | 'R' => some { f with crlf := value }
  | 'x' => some { f with extended := value }
  | 'U' => some f
  | _ => none

def putAll (f : Flags) (value : Bool) (letters : List Char) : Option Flags :=
  letters.foldlM (fun f c => f.put value c) f

/-- The flags after a word that names the flags to set and, behind a hyphen, those to clear. No
letter may stand twice, and a hyphen must be followed by a letter. -/
def change (f : Flags) (word : List Char) : Option Flags :=
  if ¬ word.Nodup ∨ word.getLast? = some '-' then none
  else do
    let f ← f.putAll true (word.takeWhile (· != '-'))
    f.putAll false ((word.dropWhile (· != '-')).drop 1)

end Flags

/-- The classes that have a letter of their own. -/
inductive Shorthand where
  | digit
  | space
  | word
deriving Repr, DecidableEq

inductive Atom where
  /-- A character; `byte` if it is written as `\x` with two digits. -/
  | char (c : Char) (byte : Bool)
  | dot
  | caret
  | dollar
  | look (l : Look)
  | edge (e : WordEdge)
  | shorthand (s : Shorthand) (negated : Bool)
  | property (s : CodeSet) (negated : Bool)

/-! ## ASCII classes -/

def asciiDigits : CodeSet := .range 0x30 0x39

def asciiSpaces : CodeSet := .union (.range 0x09 0x0D) (.single 0x20)

def asciiLetters : CodeSet := .union (.range 0x41 0x5A) (.range 0x61 0x7A)

def asciiWords : CodeSet := .unions [asciiDigits, asciiLetters, .single 0x5F]

/-- The classes that are written `[:name:]` within brackets. -/
def asciiClasses : List (String × CodeSet) := [
  ("alnum", .union asciiDigits asciiLetters),
  ("alpha", asciiLetters),
  ("ascii", .range 0 0x7F),
  ("blank", .union (.single 0x09) (.single 0x20)),
  ("cntrl", .union (.range 0 0x1F) (.single 0x7F)),
  ("digit", asciiDigits),
  ("graph", .range 0x21 0x7E),
  ("lower", .range 0x61 0x7A),
  ("print", .range 0x20 0x7E),
  ("punct", .unions [.range 0x21 0x2F, .range 0x3A 0x40, .range 0x5B 0x60, .range 0x7B 0x7E]),
  ("space", asciiSpaces),
  ("upper", .range 0x41 0x5A),
  ("word", asciiWords),
  ("xdigit", .unions [asciiDigits, .range 0x41 0x46, .range 0x61 0x66])]

/-! ## Sets under flags -/

namespace Flags

def fold (f : Flags) (s : CodeSet) : CodeSet :=
  if f.caseInsensitive then (if f.unicode then .folded s else .asciiFolded s) else s

def negate (f : Flags) (negated : Bool) (s : CodeSet) : Option CodeSet :=
  if negated then (if f.unicode then some (.compl s) else none) else some s

/-- The code point that a character stands for as an end of a range or a member of a set. -/
def member (f : Flags) : Atom → Option Nat
  | .char c _ => if f.unicode || c.toNat ≤ 0x7F then some c.toNat else none
  | _ => none

def shorthandSet (f : Flags) : Shorthand → CodeSet
  | .digit => if f.unicode then decimalDigits else asciiDigits
  | .space => if f.unicode then blanks else asciiSpaces
  | .word => if f.unicode then wordCharacters else asciiWords

/-- The set that an atom contributes to a bracketed class. -/
def setOf (f : Flags) : Atom → Option CodeSet
  | .char c byte => (f.member (.char c byte)).map .single
  | .shorthand s negated => f.negate negated (f.shorthandSet s)
  | .property s negated => if f.unicode then f.negate negated (f.fold s) else none
  | _ => none

/-- The expression that an atom stands for outside of brackets. -/
def regexOf (f : Flags) : Atom → Option Regex
  | .char c byte =>
    if !f.unicode && byte && 0x7F < c.toNat then none
    else some (.oneOf (if f.unicode || c.toNat ≤ 0x7F then f.fold (.single c.toNat)
      else .single c.toNat))
  | .dot =>
    if !f.unicode then none
    else if f.dotAll then some (.oneOf (.compl .empty))
    else if f.crlf then some (.oneOf (.compl (.union (.single 0x0A) (.single 0x0D))))
    else some (.oneOf (.compl (.single 0x0A)))
  | .caret =>
    some (.look (if f.multiLine then (if f.crlf then .crlfLineStart else .lineStart)
      else .textStart))
  | .dollar =>
    some (.look (if f.multiLine then (if f.crlf then .crlfLineEnd else .lineEnd) else .textEnd))
  | .look l => some (.look l)
  | .edge e => some (.look (if f.unicode then .word e else .asciiWord e))
  | .shorthand s negated => (f.setOf (.shorthand s negated)).map .oneOf
  | .property s negated => (f.setOf (.property s negated)).map .oneOf

end Flags

end Telemetry.Regex

import Telemetry.Unicode.Character

/-!
# Regular expressions

Expressions over characters, with assertions about the two characters around a position, and the
spans of a text that they match.

* `Look`: the assertions.
* `Regex`: the expressions.
* `Regex.Spans`: the expression matches the text between two positions.
* `Regex.Found`: it matches somewhere in the text.
* `Regex.Whole`: it matches the text from its first to its last character.
-/

namespace Telemetry

open Unicode

/-- What is asked of the word characters on the two sides of a position. -/
inductive WordEdge where
  | boundary
  | inside
  | start
  | finish
  | startHalf
  | finishHalf
deriving Repr, DecidableEq

def WordEdge.holds : WordEdge → (before after : Bool) → Bool
  | boundary, b, a => b != a
  | inside, b, a => b == a
  | start, b, a => !b && a
  | finish, b, a => b && !a
  | startHalf, b, _ => !b
  | finishHalf, _, a => !a

/-- A condition on the characters before and after a position, which are missing at the ends of the
text. -/
inductive Look where
  | textStart
  | textEnd
  | lineStart
  | lineEnd
  | crlfLineStart
  | crlfLineEnd
  | word (edge : WordEdge)
  | asciiWord (edge : WordEdge)
deriving Repr, DecidableEq

def isWordCharacter (c : Char) : Bool := wordCharacters.contains c.toNat

def isAsciiWordCharacter (c : Char) : Bool := c.isAlphanum || c == '_'

def Look.holds : Look → (before after : Option Char) → Bool
  | textStart, before, _ => before.isNone
  | textEnd, _, after => after.isNone
  | lineStart, before, _ => before.all (· == '\n')
  | lineEnd, _, after => after.all (· == '\n')
  | crlfLineStart, before, after =>
    before.all fun c => c == '\n' || (c == '\r' && after != some '\n')
  | crlfLineEnd, before, after =>
    after.all fun c => c == '\r' || (c == '\n' && before != some '\r')
  | word edge, before, after => edge.holds (before.any isWordCharacter) (after.any isWordCharacter)
  | asciiWord edge, before, after =>
    edge.holds (before.any isAsciiWordCharacter) (after.any isAsciiWordCharacter)

inductive Regex where
  | empty
  | look (l : Look)
  | oneOf (s : CodeSet)
  | cat (a b : Regex)
  | alt (a b : Regex)
  /-- At least `least` and, if there is a bound, at most `most` times. -/
  | repeated (r : Regex) (least : Nat) (most : Option Nat)

namespace Regex

def never : Regex := oneOf .empty

def cats (rs : List Regex) : Regex := rs.foldr cat empty

def alts : List Regex → Regex
  | [] => never
  | [r] => r
  | r :: rest => alt r (alts rest)

/-- The characters before and after position `i` of a text. -/
def before (text : List Char) (i : Nat) : Option Char := if i = 0 then none else text[i - 1]?

def after (text : List Char) (i : Nat) : Option Char := text[i]?

/-- The expression matches the text from position `i` to position `j`. -/
inductive Spans (text : List Char) : Regex → Nat → Nat → Prop
  | empty (i) : Spans text .empty i i
  | look (l i) (h : l.holds (before text i) (after text i)) : Spans text (.look l) i i
  | oneOf (s i c) (h : text[i]? = some c) (hs : s.contains c.toNat) : Spans text (.oneOf s) i (i + 1)
  | cat (ha : Spans text a i j) (hb : Spans text b j k) : Spans text (.cat a b) i k
  | altLeft (b) (h : Spans text a i j) : Spans text (.alt a b) i j
  | altRight (a) (h : Spans text b i j) : Spans text (.alt a b) i j
  | repeatedNone (r most i) : Spans text (.repeated r 0 most) i i
  | repeatedLeast (hr : Spans text r i j)
      (hrest : Spans text (.repeated r least (most.map (· - 1))) j k)
      (hmost : most ≠ some 0) : Spans text (.repeated r (least + 1) most) i k
  | repeatedMore (hr : Spans text r i j)
      (hrest : Spans text (.repeated r 0 (most.map (· - 1))) j k)
      (hmost : most ≠ some 0) : Spans text (.repeated r 0 most) i k

def Found (r : Regex) (text : List Char) : Prop :=
  ∃ i j, i ≤ j ∧ j ≤ text.length ∧ Spans text r i j

def Whole (r : Regex) (text : List Char) : Prop := Spans text r 0 text.length

end Regex

end Telemetry

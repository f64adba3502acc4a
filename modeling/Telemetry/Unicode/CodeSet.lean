import Telemetry.Unicode.Fold

/-!
# Sets of code points

A set is kept as the expression that builds it, so that complements and case closures cost nothing
until a character is looked up.

* `CodeSet`: the expressions.
* `CodeSet.contains`: membership.
-/

namespace Telemetry.Unicode

/-- An expression for a set of code points. -/
inductive CodeSet where
  | runs (rs : List Run)
  | union (a b : CodeSet)
  | inter (a b : CodeSet)
  | diff (a b : CodeSet)
  | symmDiff (a b : CodeSet)
  | compl (a : CodeSet)
  /-- The set with every case variant of its members. -/
  | folded (a : CodeSet)
  /-- The set with the other case of its ASCII letters. -/
  | asciiFolded (a : CodeSet)

/-- The code point of an ASCII letter in its other case; any other code point as it is. -/
def otherAsciiCase (n : Nat) : Nat :=
  if 0x41 ≤ n ∧ n ≤ 0x5A then n + 0x20 else if 0x61 ≤ n ∧ n ≤ 0x7A then n - 0x20 else n

namespace CodeSet

def contains : CodeSet → Nat → Bool
  | runs rs, n => rs.any (·.contains n)
  | union a b, n => a.contains n || b.contains n
  | inter a b, n => a.contains n && b.contains n
  | diff a b, n => a.contains n && !b.contains n
  | symmDiff a b, n => a.contains n != b.contains n
  | compl a, n => !a.contains n
  | folded a, n => (caseVariants n).any a.contains
  | asciiFolded a, n => a.contains n || a.contains (otherAsciiCase n)

def empty : CodeSet := runs []

def single (n : Nat) : CodeSet := runs [Run.ofBounds n n]

def range (first last : Nat) : CodeSet := runs [Run.ofBounds first last]

def unions (sets : List CodeSet) : CodeSet := sets.foldr union empty

/-- How many runs the expression is built from. -/
def pieces : CodeSet → Nat
  | runs rs => rs.length
  | union a b | inter a b | diff a b | symmDiff a b => a.pieces + b.pieces
  | compl a => a.pieces + 1
  | folded a | asciiFolded a => 2 * a.pieces

end CodeSet

end Telemetry.Unicode

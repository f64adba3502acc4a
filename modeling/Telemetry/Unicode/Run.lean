/-!
# Runs of code points

The tables of character properties are lists of runs, written as text: `41-5A` is a run of
neighbours, `100-12E/2` takes every second code point, `AA` is a single one.

* `Run`: a first and a last code point with the step between them.
* `Run.ofText`: the runs that a text lists.
-/

namespace Telemetry.Unicode

/-- The code points `first`, `first + step`, and so on up to `last`. -/
structure Run where
  first : Nat
  last : Nat
  step : Nat
deriving Repr, DecidableEq

namespace Run

def contains (r : Run) (n : Nat) : Bool :=
  r.first ≤ n && n ≤ r.last && (n - r.first) % r.step == 0

def ofBounds (first last : Nat) : Run := ⟨first, last, 1⟩

/-- The value of a hexadecimal digit; any other character counts as zero. -/
def digit (c : Char) : Nat :=
  if c.isDigit then c.toNat - '0'.toNat
  else if 'A' ≤ c ∧ c ≤ 'F' then c.toNat - 'A'.toNat + 10
  else if 'a' ≤ c ∧ c ≤ 'f' then c.toNat - 'a'.toNat + 10
  else 0

def number (digits : List Char) : Nat :=
  digits.foldl (fun n c => 16 * n + digit c) 0

/-- Reads one run: its bounds, joined by a hyphen, and its step after a slash. -/
def ofWord (word : List Char) : Run :=
  let bounds := word.takeWhile (· != '/')
  let step := number ((word.dropWhile (· != '/')).drop 1)
  let first := number (bounds.takeWhile (· != '-'))
  let last := (bounds.dropWhile (· != '-')).drop 1
  ⟨first, if last.isEmpty then first else number last, max step 1⟩

/-- Reads the runs that stand between the blanks of a text. -/
def ofText (text : String) : List Run :=
  let words := ((text.replace "\n" " ").splitOn " ").filter (· != "")
  words.map fun word => ofWord word.toList

end Run

end Telemetry.Unicode

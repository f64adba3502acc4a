import Telemetry.Number.Double

/-!
# Shortest decimals

Of all decimals that read back as a number, the ones with the fewest digits, and of these the
nearest to the number.

* `Decimal`: digits and a power of ten.
* `Double.shortest`: the decimal that a number is written with.
-/

namespace Telemetry

/-- `digits * 10 ^ scale`. -/
structure Decimal where
  digits : Nat
  scale : Int
deriving Repr, DecidableEq

/-- What is written of a number that lies in the middle between two decimals. -/
inductive Tie where
  | up
  | even
deriving Repr, DecidableEq

namespace Double

/-- How many digits the whole part of `n / d` has, or how many zeros follow its point, negated. -/
def magnitude (n d : Nat) : Int :=
  if d ≤ n then (countDigits (n / d) : Int)
  else
    -- the quotient of `d` and `n` tells the zeros up to one
    let zeros : Nat := countDigits (d / n) - 1
    if n * Nat.pow 10 zeros < d then -(zeros : Int) else 1 - (zeros : Int)

/-- The neighbours of `n / d` on the grid of `10 ^ scale`, as multiples of the grid, and whether the
fraction lies below, at or above the middle. -/
def gridNeighbours (n d : Nat) (scale : Int) : Nat × Ordering × Bool :=
  let (a, b) := if 0 ≤ scale then (n, d * Nat.pow 10 scale.toNat)
    else (n * Nat.pow 10 (-scale).toNat, d)
  (a / b, compare (2 * (a % b)) b, a % b == 0)

/-- The decimal on the grid of `10 ^ scale` that reads back and is nearest, if any does. -/
def onGrid (x : Double) (tie : Tie) (n d : Nat) (scale : Int) : Option Decimal :=
  let (low, side, exact) := gridNeighbours n d scale
  let readsBack (digits : Nat) : Bool := ofDecimal x.isNegative digits scale == x
  let down := readsBack low
  let up := !exact && readsBack (low + 1)
  let preferUp := match side with
    | .lt => false
    | .gt => true
    | .eq => match tie with
      | .up => true
      | .even => low % 2 == 1
  if up && (preferUp || !down) then some ⟨low + 1, scale⟩
  else if down then some ⟨low, scale⟩
  else none

/-- Tries grids of 1, 2, … digits; `exact` is the answer if none of them has a decimal that reads
back. -/
def firstGrid (x : Double) (tie : Tie) (n d : Nat) (top : Int) (exact : Decimal) :
    (tried left : Nat) → Decimal
  | _, 0 => exact
  | tried, left + 1 =>
    match x.onGrid tie n d (top - (tried + 1)) with
    | some decimal => decimal
    | none => firstGrid x tie n d top exact (tried + 1) left

def stripZerosFrom : (fuel : Nat) → Decimal → Decimal
  | 0, decimal => decimal
  | fuel + 1, ⟨digits, scale⟩ =>
    if digits ≠ 0 ∧ digits % 10 = 0 then stripZerosFrom fuel ⟨digits / 10, scale + 1⟩
    else ⟨digits, scale⟩

/-- Drops trailing zeros. -/
def stripZeros (decimal : Decimal) : Decimal :=
  stripZerosFrom (countDigits decimal.digits) decimal

/-- The shortest decimal of a finite number; its sign is left out. -/
def shortest (tie : Tie) (x : Double) : Decimal :=
  match x.parts with
  | .finite _ m e =>
    if m = 0 then ⟨0, 0⟩
    else
      let (n, d) := if 0 ≤ e then (m <<< e.toNat, 1) else (m, 1 <<< (-e).toNat)
      let exact : Decimal := if 0 ≤ e then ⟨n, 0⟩ else ⟨m * Nat.pow 5 (-e).toNat, e⟩
      stripZeros (x.firstGrid tie n d (magnitude n d) exact 0 17)
  | _ => ⟨0, 0⟩

end Double

end Telemetry

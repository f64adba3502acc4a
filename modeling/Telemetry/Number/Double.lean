/-!
# Floating-point numbers

Numbers of 64 bits: a sign, a significand of 53 bits and a power of two. They are kept as their
bits, and all arithmetic is exact on whole numbers.

* `Double`: the numbers, with `Double.parts` to take them apart.
* `Format.round`: the significand and exponent nearest to a fraction, in a format of any width.
* `Double.ofDecimal`: the number nearest to a decimal one.
-/

namespace Telemetry

structure Double where
  bits : UInt64
deriving Repr, DecidableEq

/-- What a number of a binary format is: `finite` stands for `significand * 2 ^ exponent` with a
sign. -/
inductive DoubleParts where
  | nan
  | infinite (negative : Bool)
  | finite (negative : Bool) (significand : Nat) (exponent : Int)
deriving Repr, DecidableEq

/-! ## Rounding -/

/-- A binary format: the bits of a significand, and the least and greatest exponent beside it. -/
structure Format where
  precision : Nat
  minExponent : Int
  maxExponent : Int

def Format.binary64 : Format := ⟨53, -1074, 971⟩

def Format.binary32 : Format := ⟨24, -149, 104⟩

/-- The whole number nearest to `n / d`; of two the even one. -/
def roundHalfEven (n d : Nat) : Nat :=
  let q := n / d
  let r := n % d
  if 2 * r < d then q else if d < 2 * r then q + 1 else if q % 2 = 0 then q else q + 1

/-- `n / d` divided by `2 ^ e`, as a fraction. -/
def scaleDown (n d : Nat) (e : Int) : Nat × Nat :=
  if 0 ≤ e then (n, d <<< e.toNat) else (n <<< (-e).toNat, d)

/-- The exponent at which the significand of `n / d` has as many bits as the format offers. -/
def Format.exponentOf (f : Format) (n d : Nat) : Int :=
  let guess : Int := (n.log2 : Int) - d.log2 - (f.precision - 1)
  let (a, b) := scaleDown n d guess
  let exponent := if a / b < 1 <<< (f.precision - 1) then guess - 1 else guess
  max exponent f.minExponent

/-- The significand and exponent nearest to `n / d`, or nothing if it is beyond the format. -/
def Format.round (f : Format) (n d : Nat) : Option (Nat × Int) :=
  if n = 0 then some (0, f.minExponent)
  else
    let e := f.exponentOf n d
    let (a, b) := scaleDown n d e
    let m := roundHalfEven a b
    let (m, e) := if m = 1 <<< f.precision then (1 <<< (f.precision - 1), e + 1) else (m, e)
    if f.maxExponent < e then none else some (m, e)

namespace Double

/-! ## Parts and bits -/

def isNegative (x : Double) : Bool := x.bits >>> 63 == 1

def parts (x : Double) : DoubleParts :=
  let exponent := ((x.bits >>> 52) &&& 0x7FF).toNat
  let fraction := (x.bits &&& 0xFFFFFFFFFFFFF).toNat
  if exponent = 0x7FF then
    if fraction = 0 then .infinite x.isNegative else .nan
  else if exponent = 0 then .finite x.isNegative fraction (-1074)
  else .finite x.isNegative (0x10000000000000 + fraction) ((exponent : Int) - 1075)

def signBit (negative : Bool) : UInt64 := if negative then 0x8000000000000000 else 0

def nan : Double := ⟨0x7FF8000000000000⟩

def infinity (negative : Bool) : Double := ⟨signBit negative ||| 0x7FF0000000000000⟩

/-- The number with these parts, which `Format.round` has fitted to the format. -/
def ofParts (negative : Bool) (significand : Nat) (exponent : Int) : Double :=
  if significand < 0x10000000000000 then ⟨signBit negative ||| UInt64.ofNat significand⟩
  else ⟨signBit negative ||| UInt64.ofNat
    ((exponent + 1075).toNat * 0x10000000000000 + (significand - 0x10000000000000))⟩

/-- The number nearest to a fraction. -/
def ofRatio (negative : Bool) (n d : Nat) : Double :=
  match Format.binary64.round n d with
  | some (m, e) => ofParts negative m e
  | none => infinity negative

def ofNat (n : Nat) : Double := ofRatio false n 1

def ofInt (n : Int) : Double := ofRatio (n < 0) n.natAbs 1

def isFinite (x : Double) : Bool :=
  match x.parts with
  | .finite .. => true
  | _ => false

/-- Numeric equality: zeros of both signs are equal, and nothing equals a number that is none. -/
def same (x y : Double) : Bool :=
  match x.parts, y.parts with
  | .nan, _ | _, .nan => false
  | .finite _ 0 _, .finite _ 0 _ => true
  | _, _ => x.bits == y.bits

/-! ## Decimals -/

/-- The numerator and denominator of `digits * 10 ^ scale`. -/
def decimalRatio (digits : Nat) (scale : Int) : Nat × Nat :=
  if 0 ≤ scale then (digits * Nat.pow 10 scale.toNat, 1) else (digits, Nat.pow 10 (-scale).toNat)

def countDigits (n : Nat) : Nat := (Nat.toDigits 10 n).length

/-- The number of the format that is nearest to `digits * 10 ^ scale`. The scale is looked at first,
so that powers beyond the format are never built. -/
def roundDecimal (f : Format) (digits : Nat) (scale : Int) : Option (Nat × Int) :=
  if digits = 0 then some (0, f.minExponent)
  else
    let magnitude := (countDigits digits : Int) + scale
    if magnitude < -400 then some (0, f.minExponent)
    else if 400 < magnitude then none
    else
      let (n, d) := decimalRatio digits scale
      f.round n d

def ofDecimal (negative : Bool) (digits : Nat) (scale : Int) : Double :=
  match roundDecimal .binary64 digits scale with
  | some (m, e) => ofParts negative m e
  | none => infinity negative

/-- The number that a decimal is rounded to in 32 bits, which always is one of 64 bits. -/
def ofDecimalSingle (negative : Bool) (digits : Nat) (scale : Int) : Double :=
  match roundDecimal .binary32 digits scale with
  | some (m, e) => if 0 ≤ e then ofRatio negative (m <<< e.toNat) 1
    else ofRatio negative m (1 <<< (-e).toNat)
  | none => infinity negative

end Double

end Telemetry

import Telemetry.Number.Shortest

/-!
# Numbers as text

* `Double.text`: plain digits without an exponent.
* `Double.jsonText`: with a point or an exponent, as in JSON.
* `Double.parse`, `Double.parseFinite`: the number that a text in plain or scientific notation is
  nearest to.
-/

namespace Telemetry

namespace Decimal

def digitChars (d : Decimal) : List Char := Nat.toDigits 10 d.digits

/-- Where the point stands, counted from the first digit. -/
def point (d : Decimal) : Int := (d.digitChars.length : Int) + d.scale

def zeros (n : Nat) : List Char := List.replicate n '0'

/-- Positional notation, with `.0` behind a whole number if it is asked for. -/
def positional (pointed : Bool) (d : Decimal) : List Char :=
  let digits := d.digitChars
  if 0 ≤ d.scale then digits ++ zeros d.scale.toNat ++ (if pointed then ['.', '0'] else [])
  else if d.point ≤ 0 then '0' :: '.' :: (zeros (-d.point).toNat ++ digits)
  else digits.take d.point.toNat ++ '.' :: digits.drop d.point.toNat

/-- One digit before the point, and an exponent with its sign. -/
def scientific (d : Decimal) : List Char :=
  let exponent := d.point - 1
  let fraction := match d.digitChars with
    | first :: second :: rest => first :: '.' :: second :: rest
    | digits => digits
  fraction ++ 'e' :: (if exponent < 0 then '-' else '+') :: Nat.toDigits 10 exponent.natAbs

end Decimal

namespace Double

def signed (negative : Bool) (cs : List Char) : String :=
  String.ofList (if negative then '-' :: cs else cs)

/-- All digits in positional notation and nothing behind a whole number; a middle between two
decimals is written upwards. -/
def text (x : Double) : String :=
  match x.parts with
  | .nan => "NaN"
  | .infinite negative => signed negative "inf".toList
  | .finite negative _ _ => signed negative ((x.shortest .up).positional false)

/-- Positional notation from 1e-5 up to below 1e16, scientific notation beyond, and `null` for what
is no finite number. -/
def jsonText (x : Double) : String :=
  match x.parts with
  | .finite negative _ _ =>
    let d := x.shortest .even
    signed negative <|
      if d.digits = 0 ∨ (-5 < d.point ∧ d.point ≤ 16) then d.positional true else d.scientific
  | _ => "null"

/-! ## Reading -/

/-- A decimal as it was written: the digits before and behind the point and the exponent. -/
structure Written where
  whole : List Char
  fraction : List Char
  exponent : Int

def readDigits (cs : List Char) : Nat :=
  cs.foldl (fun n c => 10 * n + (c.toNat - '0'.toNat)) 0

def Written.digits (w : Written) : Nat := readDigits (w.whole ++ w.fraction)

def Written.scale (w : Written) : Int := w.exponent - w.fraction.length

def readSign : List Char → Bool × List Char
  | '-' :: cs => (true, cs)
  | '+' :: cs => (false, cs)
  | cs => (false, cs)

/-- The digits behind a point, if there is a point. -/
def readPoint : List Char → List Char × List Char
  | '.' :: cs => (cs.takeWhile Char.isDigit, cs.dropWhile Char.isDigit)
  | cs => ([], cs)

/-- Reads an unsigned number in plain or scientific notation; digits may be missing on one side of
the point. -/
def readWritten (cs : List Char) : Option Written :=
  let whole := cs.takeWhile Char.isDigit
  let (fraction, rest) := readPoint (cs.dropWhile Char.isDigit)
  if whole.isEmpty && fraction.isEmpty then none
  else match rest with
    | [] => some ⟨whole, fraction, 0⟩
    | e :: rest =>
      let (negative, digits) := readSign rest
      if (e = 'e' ∨ e = 'E') ∧ !digits.isEmpty ∧ digits.all Char.isDigit then
        some ⟨whole, fraction, if negative then -(readDigits digits : Int) else readDigits digits⟩
      else none

/-- The number that a text denotes, rounded to 64 bits, or to 32 bits if `single` is set. -/
def parse (single : Bool) (s : String) : Option Double :=
  let (negative, cs) := readSign s.toList
  match String.ofList (cs.map Char.toLower) with
  | "nan" => some nan
  | "inf" | "infinity" => some (infinity negative)
  | _ => (readWritten cs).map fun w =>
    if single then ofDecimalSingle negative w.digits w.scale
    else ofDecimal negative w.digits w.scale

/-- The finite number that a text is nearest to. -/
def parseFinite (s : String) : Option Double := (parse false s).filter isFinite

end Double

end Telemetry

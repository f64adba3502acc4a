import Telemetry.Time.Calendar
import Telemetry.Unicode.Character

/-!
# Instants

* `Instant`: seconds since 1 January 1970 with nanoseconds.
* `Instant.text`: date, time and `Z`, with as few digits of a second as are exact, in groups of
  three.
* `Instant.parse`: reads such a text with any offset, generously about blanks and missing zeros.
-/

namespace Telemetry

/-- A point in time. Within a leap second the nanoseconds go on beyond a whole second. -/
structure Instant where
  seconds : Int
  nanos : Nat
deriving Repr, DecidableEq

namespace Instant

/-! ## Writing -/

def padded (width : Nat) (n : Nat) : List Char :=
  let digits := Nat.toDigits 10 n
  List.replicate (width - digits.length) '0' ++ digits

/-- Years have four digits, and a sign if these are not enough. -/
def yearChars (year : Int) : List Char :=
  if 0 ≤ year ∧ year ≤ 9999 then padded 4 year.toNat
  else (if year < 0 then '-' else '+') :: padded 4 year.natAbs

/-- A point and three, six or nine digits, or nothing if no digit is needed. -/
def fractionChars (nanos : Nat) : List Char :=
  if nanos = 0 then []
  else if nanos % 1000000 = 0 then '.' :: padded 3 (nanos / 1000000)
  else if nanos % 1000 = 0 then '.' :: padded 6 (nanos / 1000)
  else '.' :: padded 9 nanos

def text (t : Instant) : String :=
  let date := Date.ofDays (t.seconds / 86400)
  let time := (t.seconds % 86400).toNat
  let leap := t.nanos / 1000000000
  String.ofList <|
    yearChars date.year ++ '-' :: padded 2 date.month ++ '-' :: padded 2 date.day ++
    'T' :: padded 2 (time / 3600) ++ ':' :: padded 2 (time / 60 % 60) ++
    ':' :: padded 2 (time % 60 + leap) ++ fractionChars (t.nanos % 1000000000) ++ ['Z']

/-! ## Reading -/

def trimmed (cs : List Char) : List Char := cs.dropWhile Unicode.isBlank

def numberOf (digits : List Char) : Nat :=
  digits.foldl (fun n c => 10 * n + (c.toNat - '0'.toNat)) 0

/-- Reads digits, at least one and at most so many if there is a bound. -/
def readNumber (most : Option Nat) (cs : List Char) : Option (Nat × List Char) :=
  let digits := cs.takeWhile Char.isDigit
  let digits := most.elim digits digits.take
  if digits.isEmpty then none else some (numberOf digits, cs.drop digits.length)

/-- Blanks and a number of two digits. -/
def readPair (cs : List Char) : Option (Nat × List Char) := readNumber (some 2) (trimmed cs)

/-- Blanks, a mark, and a number of two digits. -/
def readMarked (mark : Char) (cs : List Char) : Option (Nat × List Char) :=
  match trimmed cs with
  | c :: rest => if c = mark then readPair rest else none
  | [] => none

/-- A year has up to four digits, or any number of them behind a sign. -/
def readYear (cs : List Char) : Option (Int × List Char) :=
  match trimmed cs with
  | '-' :: rest => (readNumber none rest).map fun (n, rest) => (-(n : Int), rest)
  | '+' :: rest => (readNumber none rest).map fun (n, rest) => ((n : Int), rest)
  | cs => (readNumber (some 4) cs).map fun (n, rest) => ((n : Int), rest)

/-- Digits behind a point, as nanoseconds; those beyond the ninth are dropped. -/
def readFraction : List Char → Option (Nat × List Char)
  | '.' :: cs =>
    match cs.takeWhile Char.isDigit with
    | [] => none
    | digits =>
      let nine := digits.take 9
      some (numberOf nine * Nat.pow 10 (9 - nine.length), cs.dropWhile Char.isDigit)
  | cs => some (0, cs)

/-- The offset from universal time in seconds. -/
def readOffset (cs : List Char) : Option (Int × List Char) :=
  match trimmed cs with
  | 'Z' :: rest | 'z' :: rest => some (0, rest)
  | cs =>
    if (cs.take 3).map Char.toUpper = ['U', 'T', 'C'] then some (0, cs.drop 3)
    else match cs with
      | sign :: h :: h' :: rest =>
        if (sign = '+' ∨ sign = '-' ∨ sign = '\u2212') ∧ h.isDigit ∧ h'.isDigit then
          match rest.dropWhile fun c => c == ':' || Unicode.isBlank c with
          | m :: m' :: rest =>
            let hours := numberOf [h, h']
            let minutes := numberOf [m, m']
            if m.isDigit ∧ m'.isDigit ∧ minutes < 60 ∧ hours < 24 then
              let seconds : Int := hours * 3600 + minutes * 60
              some (if sign = '+' then seconds else -seconds, rest)
            else none
          | _ => none
        else none
      | _ => none

/-- The first second of the first year that is told apart. -/
def first : Int := (Date.mk (-262143) 1 1).toDays * 86400

/-- The last second of the last year. -/
def last : Int := (Date.mk 262142 12 31).toDays * 86400 + 86399

def parse (s : String) : Option Instant := do
  let (year, cs) ← readYear s.toList
  let (month, cs) ← readMarked '-' cs
  let (day, cs) ← readMarked '-' cs
  let cs ← match cs with
    | 'T' :: cs | 't' :: cs | ' ' :: cs => some cs
    | _ => none
  let (hour, cs) ← readPair cs
  let (minute, cs) ← readMarked ':' cs
  let (second, cs) ← readMarked ':' cs
  let (nanos, cs) ← readFraction cs
  let (offset, cs) ← readOffset cs
  let date : Date := ⟨year, month, day⟩
  let seconds := date.toDays * 86400 + hour * 3600 + minute * 60 + min second 59 - offset
  if (trimmed cs).isEmpty ∧ date.isValid ∧ -262143 ≤ year ∧ year ≤ 262142 ∧
      hour ≤ 23 ∧ minute ≤ 59 ∧ second ≤ 60 ∧ first ≤ seconds ∧ seconds ≤ last then
    some ⟨seconds, nanos + (if second = 60 then 1000000000 else 0)⟩
  else none

end Instant

end Telemetry

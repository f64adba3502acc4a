import Telemetry.Json.Reader
import Telemetry.Proofs.Number.Literal

/-!
# Numbers in JSON

A number of any kind is read back from its text (`Json.readNumber_text`). Whole numbers are written
by their digits alone. The text of a floating-point number is a proper literal, which has a point or
an exponent behind its digits and ends before what stops it (`readUnsigned_literal`); so all of it
is given to the reader of such numbers.

* `JsonNumber.Fits`: the numbers that fit into their kinds, and that are read back.
* `Json.Stops`: what may stand behind a value.
-/

namespace Telemetry

/-- Whole numbers within 64 bits, and floating-point numbers that are finite and read back from
their text. -/
def JsonNumber.Fits (readFloat : String → Option Double) : JsonNumber → Prop
  | natural n => n ≤ maxNatural
  | negative n => 0 < n ∧ n ≤ maxNegative
  | float x => x.isFinite = true ∧ readFloat x.jsonText = some x

namespace Json

open Double

variable {readFloat : String → Option Double} {negative : Bool} {whole rest : List Char}

/-- Behind a value the text ends, or the array or object around it goes on. -/
def Stops (cs : List Char) : Prop := ∀ c ∈ cs.head?, c = ',' ∨ c = ']' ∨ c = '}'

theorem stops_nil : Stops [] := by
  intro c hc
  cases hc

theorem Stops.cases (h : Stops rest) :
    rest = [] ∨ ∃ c more, rest = c :: more ∧ (c = ',' ∨ c = ']' ∨ c = '}') := by
  cases rest with
  | nil => exact .inl rfl
  | cons c more => exact .inr ⟨c, more, rfl, h c rfl⟩

theorem Stops.undigited (h : Stops rest) : Undigited rest := by
  intro c hc
  rcases h c hc with rfl | rfl | rfl <;> rfl

/-! ## Parts of a number -/

theorem readNumber_of_ne {cs : List Char} (h : ∀ more, cs ≠ '-' :: more) :
    readNumber readFloat cs = readUnsigned readFloat false cs := by
  unfold readNumber
  split
  · exact absurd rfl (h _)
  · rfl

theorem readNumber_of_readUnsigned {cs : List Char} {read : Json × List Char}
    (h : readUnsigned readFloat negative cs = some read) :
    readNumber readFloat (if negative then '-' :: cs else cs) = some read := by
  cases negative with
  | true => exact h
  | false =>
    have hsign : ∀ more, cs ≠ '-' :: more := by
      rintro more rfl
      have hnone : readUnsigned readFloat false ('-' :: more) = none := rfl
      rw [hnone] at h
      cases h
    rw [if_neg Bool.false_ne_true, readNumber_of_ne hsign, h]

theorem readWhole_digits (hdigits : ∀ c ∈ whole, c.isDigit = true) (hne : whole ≠ [])
    (hzero : ∀ c cs, whole ≠ '0' :: c :: cs) (hrest : Undigited rest) :
    readWhole (whole ++ rest) = some (whole, rest) := by
  unfold readWhole
  rw [takeWhile_digits hdigits hrest, dropWhile_digits hdigits hrest]
  split
  · exact absurd rfl hne
  · exact absurd rfl (hzero _ _)
  · rfl

theorem readUnsigned_whole (hwhole : ∀ c ∈ whole, c.isDigit = true) (hne : whole ≠ [])
    (hzero : ∀ c cs, whole ≠ '0' :: c :: cs) (h : Stops rest) :
    readUnsigned readFloat negative (whole ++ rest) =
      some (numberOf readFloat negative whole [], rest) := by
  have hfraction : readFraction rest = some ([], rest) := by
    rcases h.cases with rfl | ⟨c, more, rfl, rfl | rfl | rfl⟩ <;> rfl
  have hexponent : readExponent rest = some ([], rest) := by
    rcases h.cases with rfl | ⟨c, more, rfl, rfl | rfl | rfl⟩ <;> rfl
  unfold readUnsigned
  simp only [readWhole_digits hwhole hne hzero h.undigited, hfraction, hexponent,
    Option.bind_eq_bind, Option.bind_some]
  rfl

/-! ## Literals -/

theorem readFraction_chars {fraction : List Char} (hdigits : ∀ c ∈ fraction, c.isDigit = true)
    (hrest : Undigited rest) (hpoint : ∀ more, rest ≠ '.' :: more) :
    readFraction (Literal.fractionChars fraction ++ rest) =
      some (Literal.fractionChars fraction, rest) := by
  unfold Literal.fractionChars
  split_ifs with hnone
  · rw [List.nil_append]
    unfold readFraction
    split
    · exact absurd rfl (hpoint _)
    · rfl
  · rw [List.cons_append, readFraction, takeWhile_digits hdigits hrest,
      dropWhile_digits hdigits hrest]
    split
    · exact absurd rfl hnone
    · rfl

theorem readExponent_chars (exponent? : Option Int) (h : Stops rest) :
    readExponent (exponent?.elim [] Literal.exponentChars ++ rest) =
      some (exponent?.elim [] Literal.exponentChars, rest) := by
  cases exponent? with
  | none => rcases h.cases with rfl | ⟨c, more, rfl, rfl | rfl | rfl⟩ <;> rfl
  | some exponent =>
    have hsign : ∀ cs, takeSign ((if exponent < 0 then '-' else '+') :: cs) =
        ([if exponent < 0 then '-' else '+'], cs) := by
      intro cs
      split <;> rfl
    have hdigits := isDigit_toDigits exponent.natAbs
    simp only [Option.elim_some, Literal.exponentChars, List.cons_append, readExponent, hsign,
      takeWhile_digits hdigits h.undigited, dropWhile_digits hdigits h.undigited, true_or, if_true]
    split
    · next heq => exact absurd heq Nat.toDigits_ne_nil
    · rfl

theorem readUnsigned_literal {l : Literal} (hl : l.Proper) (h : Stops rest) :
    readUnsigned readFloat negative (l.chars ++ rest) =
      some (floatOf readFloat (signed negative l.chars), rest) := by
  have hpoint : ∀ more, l.exponent?.elim [] Literal.exponentChars ++ rest ≠ '.' :: more := by
    intro more heq
    cases hexponent : l.exponent? with
    | none =>
      rw [hexponent] at heq
      rcases h '.' (by rw [Option.elim_none, List.nil_append] at heq; rw [heq]; rfl) with
        h | h | h <;> exact absurd h (by decide)
    | some exponent =>
      rw [hexponent] at heq
      exact absurd (List.cons.inj heq).1 (by decide)
  have hwhole := readWhole_digits hl.isDigit_whole hl.whole_ne_nil hl.whole_ne_zero_cons
    (l.undigited_behind h.undigited)
  have hfraction := readFraction_chars hl.isDigit_fraction
    (Literal.undigited_exponent l.exponent? h.undigited) hpoint
  have hexponent := readExponent_chars l.exponent? h
  have hempty : l.behind.isEmpty = false := List.isEmpty_eq_false_iff.mpr hl.behind_ne_nil
  have hnumber : numberOf readFloat negative l.whole l.behind =
      floatOf readFloat (signed negative l.chars) := by
    unfold numberOf
    rw [hempty, Bool.false_and, Bool.false_and]
    rfl
  rw [Literal.chars, List.append_assoc, ← Literal.chars, ← hnumber]
  unfold readUnsigned
  rw [Literal.behind, List.append_assoc] at hwhole ⊢
  simp only [hwhole, hfraction, hexponent, Option.bind_eq_bind, Option.bind_some]
  rfl

theorem readNumber_jsonText {x : Double} (hx : x.isFinite = true)
    (hread : readFloat x.jsonText = some x) (h : Stops rest) :
    readNumber readFloat (x.jsonText.toList ++ rest) = some (number (.float x), rest) := by
  obtain ⟨l, hl, -, htext⟩ := Literal.exists_literal hx
  have hliteral : readUnsigned readFloat x.isNegative (l.chars ++ rest) =
      some (number (.float x), rest) := by
    rw [readUnsigned_literal hl h, ← htext, floatOf, hread]
  have hnumber := readNumber_of_readUnsigned hliteral
  rw [htext, signed, String.toList_ofList]
  cases hsign : x.isNegative <;> simpa [hsign] using hnumber

theorem toList_toString (n : Nat) : (toString n).toList = Nat.toDigits 10 n := Nat.toList_repr

/-- **A number is read back from its text.** -/
theorem readNumber_text {n : JsonNumber} (hn : n.Fits readFloat) (h : Stops rest) :
    readNumber readFloat (n.text.toList ++ rest) = some (number n, rest) := by
  cases n with
  | natural n =>
    have hfits : (true && !false && decide (n ≤ JsonNumber.maxNatural)) = true := decide_eq_true hn
    have hread : readUnsigned readFloat false (Nat.toDigits 10 n ++ rest) =
        some (number (.natural n), rest) := by
      rw [readUnsigned_whole (isDigit_toDigits n) Nat.toDigits_ne_nil
        (fun _ _ => toDigits_ne_zero_cons) h, numberOf, readDigits_toDigits]
      exact congrArg (fun j => some (j, rest)) (if_pos hfits)
    rw [JsonNumber.text, toList_toString]
    exact readNumber_of_readUnsigned hread
  | negative n =>
    have hfits : (true && true && decide (0 < n) && decide (n ≤ JsonNumber.maxNegative)) = true := by
      rw [decide_eq_true hn.1, decide_eq_true hn.2]
      rfl
    have hread : readUnsigned readFloat true (Nat.toDigits 10 n ++ rest) =
        some (number (.negative n), rest) := by
      rw [readUnsigned_whole (isDigit_toDigits n) Nat.toDigits_ne_nil
        (fun _ _ => toDigits_ne_zero_cons) h, numberOf, readDigits_toDigits]
      exact congrArg (fun j => some (j, rest)) (if_pos hfits)
    have htext : (JsonNumber.negative n).text.toList = '-' :: Nat.toDigits 10 n := by
      rw [JsonNumber.text, String.toList_append, toList_toString]
      rfl
    rw [htext]
    exact readNumber_of_readUnsigned hread
  | float x => exact readNumber_jsonText hn.1 hn.2 h

end Json

end Telemetry

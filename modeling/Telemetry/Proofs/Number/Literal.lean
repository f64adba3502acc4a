import Telemetry.Proofs.Number.Digits
import Telemetry.Proofs.Number.Shortest

/-!
# Floating-point numbers as literals

The JSON text of a finite number is a literal with a point or an exponent (`exists_literal`). Its
digits are those of the shortest decimal, with zeros where the point needs them
(`exists_positional`, `exists_scientific`), so the literal is worth the number. Reading by exact
rounding therefore gives the number back (`Double.parseFinite_jsonText`).

* `Literal`, `Literal.chars`: a number as it is written behind its sign.
* `Literal.Proper`: what makes it a floating-point number of JSON.
* `Literal.value`: the number that is nearest to it.
-/

namespace Telemetry

open Double

/-- A number behind its sign. -/
structure Literal where
  whole : List Char
  fraction : List Char := []
  exponent? : Option Int := none

namespace Literal

/-- An exponent with its mark and its sign. -/
def exponentChars (exponent : Int) : List Char :=
  'e' :: (if exponent < 0 then '-' else '+') :: Nat.toDigits 10 exponent.natAbs

def fractionChars (fraction : List Char) : List Char :=
  if fraction = [] then [] else '.' :: fraction

/-- What is written behind the whole digits. -/
def behind (l : Literal) : List Char :=
  fractionChars l.fraction ++ l.exponent?.elim [] exponentChars

def chars (l : Literal) : List Char := l.whole ++ l.behind

/-- The literal has digits, no needless zero before them, and a point or an exponent. -/
structure Proper (l : Literal) : Prop where
  isDigit_whole : ∀ c ∈ l.whole, c.isDigit = true
  whole_ne_nil : l.whole ≠ []
  whole_ne_zero_cons : ∀ c cs, l.whole ≠ '0' :: c :: cs
  isDigit_fraction : ∀ c ∈ l.fraction, c.isDigit = true
  floating : l.fraction ≠ [] ∨ l.exponent?.isSome

def value (negative : Bool) (l : Literal) : Double :=
  ofDecimal negative (readDigits (l.whole ++ l.fraction))
    (l.exponent?.getD 0 - l.fraction.length)

variable {l : Literal} {rest : List Char}

theorem Proper.behind_ne_nil (h : l.Proper) : l.behind ≠ [] := by
  unfold behind fractionChars
  rcases h.floating with hfraction | hexponent
  · rw [if_neg hfraction]
    exact List.cons_ne_nil _ _
  · obtain ⟨exponent, hexponent⟩ := Option.isSome_iff_exists.mp hexponent
    rw [hexponent]
    exact List.append_ne_nil_of_right_ne_nil _ (List.cons_ne_nil _ _)

theorem undigited_exponent (exponent? : Option Int) (hrest : Undigited rest) :
    Undigited (exponent?.elim [] exponentChars ++ rest) := by
  cases exponent? with
  | none => exact hrest
  | some exponent => exact undigited_cons rfl

theorem undigited_behind (l : Literal) (hrest : Undigited rest) : Undigited (l.behind ++ rest) := by
  unfold behind fractionChars
  split
  · exact undigited_exponent l.exponent? hrest
  · exact undigited_cons rfl

/-! ## Decimals -/

variable {d : Decimal} {k : Nat}

/-- The literal is worth as much as the decimal. -/
def Denotes (l : Literal) (d : Decimal) : Prop :=
  ∀ negative, l.value negative = ofDecimal negative d.digits d.scale

theorem isDigit_digitChars (d : Decimal) : ∀ c ∈ d.digitChars, c.isDigit = true :=
  isDigit_toDigits d.digits

theorem readDigits_digitChars (d : Decimal) : readDigits d.digitChars = d.digits :=
  readDigits_toDigits d.digits

theorem digitChars_ne_nil (d : Decimal) : d.digitChars ≠ [] := Nat.toDigits_ne_nil

theorem point_eq (d : Decimal) : d.point = d.digitChars.length + d.scale := rfl

/-- Zeros stand between the digits and the point. -/
theorem exists_behind (hzero : d.digits = 0 → d.scale = 0) (hscale : d.scale = k) :
    ∃ l : Literal, l.Proper ∧ l.Denotes d ∧
      l.chars = d.digitChars ++ Decimal.zeros k ++ ['.', '0'] := by
  have hwhole : ∀ c ∈ d.digitChars ++ Decimal.zeros k, c.isDigit = true :=
    List.forall_mem_append.mpr ⟨isDigit_digitChars d, isDigit_replicate_zero k⟩
  have hlead : ∀ c cs, d.digitChars ++ Decimal.zeros k ≠ '0' :: c :: cs := by
    intro c cs heq
    rcases Nat.eq_zero_or_pos d.digits with hnone | hpos
    · have hk : k = 0 := by
        have := hzero hnone
        omega
      rw [hk, Decimal.zeros, List.replicate_zero, List.append_nil] at heq
      exact toDigits_ne_zero_cons heq
    · obtain ⟨first, more, hcs, hfirst⟩ := head_toDigits hpos
      rw [Decimal.digitChars, hcs] at heq
      exact hfirst (List.cons.inj heq).1
  have hzeros : d.digitChars ++ Decimal.zeros k ++ ['0'] =
      d.digitChars ++ List.replicate (k + 1) '0' := by
    rw [List.replicate_succ', Decimal.zeros, List.append_assoc]
  refine ⟨{ whole := d.digitChars ++ Decimal.zeros k, fraction := ['0'] }, ?_, ?_, rfl⟩
  · exact ⟨hwhole, List.append_ne_nil_of_left_ne_nil (digitChars_ne_nil d) _, hlead,
      isDigit_replicate_zero 1, .inl (List.cons_ne_nil _ _)⟩
  · intro negative
    rw [value, hzeros, readDigits_append_zeros, readDigits_digitChars, ofDecimal_mul_pow, hscale]
    congr 1
    simp

/-- Zeros stand between the point and the digits. -/
theorem exists_before (hpoint : d.point = -k) :
    ∃ l : Literal, l.Proper ∧ l.Denotes d ∧
      l.chars = '0' :: '.' :: (Decimal.zeros k ++ d.digitChars) := by
  have hne : Decimal.zeros k ++ d.digitChars ≠ [] :=
    List.append_ne_nil_of_right_ne_nil _ (digitChars_ne_nil d)
  have hfraction : ∀ c ∈ Decimal.zeros k ++ d.digitChars, c.isDigit = true :=
    List.forall_mem_append.mpr ⟨isDigit_replicate_zero k, isDigit_digitChars d⟩
  have hzeros : ['0'] ++ (Decimal.zeros k ++ d.digitChars) =
      List.replicate (k + 1) '0' ++ d.digitChars := rfl
  have hlength := point_eq d
  refine ⟨{ whole := ['0'], fraction := Decimal.zeros k ++ d.digitChars }, ?_, ?_, ?_⟩
  · exact ⟨isDigit_replicate_zero 1, List.cons_ne_nil _ _, by simp, hfraction, .inl hne⟩
  · intro negative
    rw [value, hzeros, readDigits_zeros_append, readDigits_digitChars]
    congr 1
    simp [Decimal.zeros]
    omega
  · simp [chars, behind, fractionChars, digitChars_ne_nil]

/-- The point stands between digits. -/
theorem exists_inside (hpoint : d.point = k) (hk : 0 < k) (hlength : k < d.digitChars.length) :
    ∃ l : Literal, l.Proper ∧ l.Denotes d ∧
      l.chars = d.digitChars.take k ++ '.' :: d.digitChars.drop k := by
  have htake : d.digitChars.take k ≠ [] := by
    rw [Ne, List.take_eq_nil_iff]
    exact not_or.mpr ⟨Nat.ne_of_gt hk, digitChars_ne_nil d⟩
  have hdrop : d.digitChars.drop k ≠ [] := by
    rw [Ne, List.drop_eq_nil_iff]
    exact Nat.not_le.mpr hlength
  have hlead : ∀ c cs, d.digitChars.take k ≠ '0' :: c :: cs := by
    intro c cs heq
    have hall := List.take_append_drop k d.digitChars
    rw [heq] at hall
    exact toDigits_ne_zero_cons hall.symm
  have hall := point_eq d
  refine ⟨{ whole := d.digitChars.take k, fraction := d.digitChars.drop k }, ?_, ?_, ?_⟩
  · exact ⟨fun c hc => isDigit_digitChars d c (List.mem_of_mem_take hc), htake, hlead,
      fun c hc => isDigit_digitChars d c (List.mem_of_mem_drop hc), .inl hdrop⟩
  · intro negative
    rw [value, List.take_append_drop, readDigits_digitChars, List.length_drop]
    congr 1
    dsimp only [Option.getD_none]
    omega
  · rw [chars, behind, fractionChars, if_neg hdrop, Option.elim_none, List.append_nil]

theorem exists_positional (hzero : d.digits = 0 → d.scale = 0) :
    ∃ l : Literal, l.Proper ∧ l.Denotes d ∧ l.chars = d.positional true := by
  have hpoint := point_eq d
  unfold Decimal.positional
  dsimp only
  split
  · exact exists_behind hzero (by omega)
  · split
    · exact exists_before (by omega)
    · exact exists_inside (by omega) (by omega) (by omega)

theorem exists_scientific (d : Decimal) :
    ∃ l : Literal, l.Proper ∧ l.Denotes d ∧ l.chars = d.scientific := by
  have hdigits := isDigit_digitChars d
  have hvalue := readDigits_digitChars d
  have hpoint := point_eq d
  unfold Decimal.scientific
  dsimp only
  cases hchars : d.digitChars with
  | nil => exact absurd hchars (digitChars_ne_nil d)
  | cons first more =>
    rw [hchars] at hdigits hvalue hpoint
    have hfirst : ∀ c ∈ [first], c.isDigit = true := by simpa using hdigits first List.mem_cons_self
    have hmore : ∀ c ∈ more, c.isDigit = true := fun c hc => hdigits c (List.mem_cons_of_mem first hc)
    refine ⟨{ whole := [first], fraction := more, exponent? := some (d.point - 1) }, ?_, ?_, ?_⟩
    · exact ⟨hfirst, List.cons_ne_nil _ _, by simp, hmore, .inr rfl⟩
    · intro negative
      rw [value, List.singleton_append, hvalue]
      congr 1
      simp at hpoint ⊢
      omega
    · cases more <;> rfl

/-- **The text of a finite number is a literal that is worth the number.** -/
theorem exists_literal {x : Double} (hx : x.isFinite = true) :
    ∃ l : Literal, l.Proper ∧ l.value x.isNegative = x ∧
      x.jsonText = signed x.isNegative l.chars := by
  obtain ⟨m, e, hparts⟩ := isFinite_iff.mp hx
  have hshortest := ofDecimal_shortest .even hx
  unfold jsonText
  rw [hparts]
  dsimp only
  split
  · obtain ⟨l, hl, hvalue, hchars⟩ := exists_positional (shortest_scale_eq_zero .even hx)
    exact ⟨l, hl, (hvalue _).trans hshortest, by rw [hchars]⟩
  · obtain ⟨l, hl, hvalue, hchars⟩ := exists_scientific (x.shortest .even)
    exact ⟨l, hl, (hvalue _).trans hshortest, by rw [hchars]⟩

/-! ## Reading by exact rounding -/

theorem toLower_of_isDigit {c : Char} (hc : c.isDigit = true) : c.toLower = c := by
  simp only [Char.isDigit, Bool.and_eq_true, decide_eq_true_eq, UInt32.le_iff_toNat_le] at hc
  have hupper : ¬ (c.val ≥ 'A'.val ∧ c.val ≤ 'Z'.val) := by
    rintro ⟨hA, -⟩
    rw [ge_iff_le, UInt32.le_iff_toNat_le] at hA
    have : 'A'.val.toNat = 65 := rfl
    have : '9'.val.toNat = 57 := rfl
    omega
  exact dif_neg hupper

theorem readSign_exponentSign (exponent : Int) (cs : List Char) :
    readSign ((if exponent < 0 then '-' else '+') :: cs) = (decide (exponent < 0), cs) := by
  by_cases hneg : exponent < 0
  · simp only [hneg, if_true, decide_true, readSign]
  · simp only [hneg, if_false, decide_false, readSign]

theorem readWritten_chars (h : l.Proper) :
    readWritten l.chars = some ⟨l.whole, l.fraction, l.exponent?.getD 0⟩ := by
  have hnil : Undigited [] := fun c hc => by cases hc
  have hbehind : Undigited l.behind := by simpa using undigited_behind l hnil
  have hexponent : Undigited (l.exponent?.elim [] exponentChars) := by
    simpa using undigited_exponent l.exponent? hnil
  have hpoint : readPoint l.behind = (l.fraction, l.exponent?.elim [] exponentChars) := by
    unfold behind fractionChars
    split_ifs with hnone
    · rw [List.nil_append, hnone]
      cases l.exponent? <;> rfl
    · rw [List.cons_append, readPoint, takeWhile_digits h.isDigit_fraction hexponent,
        dropWhile_digits h.isDigit_fraction hexponent]
  unfold readWritten chars
  rw [takeWhile_digits h.isDigit_whole hbehind, dropWhile_digits h.isDigit_whole hbehind, hpoint]
  dsimp only
  rw [List.isEmpty_eq_false_iff.mpr h.whole_ne_nil, Bool.false_and, if_neg Bool.false_ne_true]
  cases l.exponent? with
  | none => rfl
  | some exponent =>
    have hdigits : (Nat.toDigits 10 exponent.natAbs).all Char.isDigit = true :=
      List.all_eq_true.mpr (isDigit_toDigits exponent.natAbs)
    have hne : (Nat.toDigits 10 exponent.natAbs).isEmpty = false :=
      List.isEmpty_eq_false_iff.mpr Nat.toDigits_ne_nil
    have hvalue : (if exponent < 0 then -(exponent.natAbs : Int) else exponent.natAbs) =
        exponent := by
      split <;> omega
    simp only [Option.elim_some, exponentChars, readSign_exponentSign, hdigits, hne,
      readDigits_toDigits, decide_eq_true_eq, hvalue]
    rfl

theorem parse_signed (h : l.Proper) (negative : Bool) :
    parse false (signed negative l.chars) = some (l.value negative) := by
  obtain ⟨first, more, hchars, hfirst⟩ : ∃ c cs, l.chars = c :: cs ∧ c.isDigit = true := by
    obtain ⟨c, cs, hwhole⟩ := List.exists_cons_of_ne_nil h.whole_ne_nil
    exact ⟨c, cs ++ l.behind, by rw [chars, hwhole, List.cons_append],
      h.isDigit_whole c (hwhole ▸ List.mem_cons_self)⟩
  have hsign : readSign (signed negative l.chars).toList = (negative, l.chars) := by
    rw [signed, String.toList_ofList, hchars]
    cases negative with
    | true => rfl
    | false =>
      rw [if_neg Bool.false_ne_true]
      have hminus : first ≠ '-' := by
        rintro rfl
        cases hfirst
      have hplus : first ≠ '+' := by
        rintro rfl
        cases hfirst
      unfold readSign
      split
      · next heq => exact absurd (List.cons.inj heq).1 hminus
      · next heq => exact absurd (List.cons.inj heq).1 hplus
      · rfl
  -- Names of numbers that are none begin with a letter.
  have hname : ∀ c cs, c.isDigit = false →
      String.ofList (l.chars.map Char.toLower) ≠ String.ofList (c :: cs) := by
    intro c cs hc heq
    have hlower : first.toLower = first := toLower_of_isDigit hfirst
    rw [String.ofList_inj, hchars, List.map_cons, hlower] at heq
    rw [← (List.cons.inj heq).1, hfirst] at hc
    cases hc
  unfold parse
  rw [hsign]
  dsimp only
  split
  · next heq => exact absurd heq (hname 'n' ['a', 'n'] rfl)
  · next heq => exact absurd heq (hname 'i' ['n', 'f'] rfl)
  · next heq => exact absurd heq (hname 'i' "nfinity".toList rfl)
  · rw [readWritten_chars h]
    rfl

end Literal

/-- **A finite number is read back from its text by exact rounding.** -/
theorem Double.parseFinite_jsonText {x : Double} (hx : x.isFinite = true) :
    parseFinite x.jsonText = some x := by
  obtain ⟨l, hl, hvalue, htext⟩ := Literal.exists_literal hx
  rw [parseFinite, htext, Literal.parse_signed hl, hvalue, Option.filter_some, if_pos hx]

end Telemetry

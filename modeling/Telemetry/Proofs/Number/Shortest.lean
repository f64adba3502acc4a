import Mathlib.Tactic.FieldSimp
import Telemetry.Number.Shortest
import Telemetry.Proofs.Number.Rounding

/-!
# Shortest decimals read back

The decimal that a finite number is written with is rounded to this number again
(`Double.ofDecimal_shortest`). A decimal from one of the grids has been read back before it is
chosen (`Double.ofDecimal_onGrid`), and the last resort is the number itself
(`Double.ofDecimal_of_eq`). Zeros at the end of the digits are dropped without changing the number
(`Double.ofDecimal_stripZerosFrom`).
-/

namespace Telemetry

namespace Double

variable {x : Double} {negative : Bool} {m : Nat} {e : Int}

/-! ## Parts and bits -/

/-- The bits of the exponent. -/
def exponentBits (x : Double) : Nat := x.bits.toNat / 2 ^ 52 % 2 ^ 11

/-- The bits of the significand, without the first one of most numbers. -/
def fractionBits (x : Double) : Nat := x.bits.toNat % 2 ^ 52

theorem isNegative_eq (x : Double) : x.isNegative = decide (2 ^ 63 ≤ x.bits.toNat) := by
  have hlt := x.bits.toNat_lt
  have hone : (1 : UInt64).toNat = 1 := rfl
  have hshift : (x.bits >>> 63).toNat = x.bits.toNat / 2 ^ 63 := by
    rw [UInt64.toNat_shiftRight, Nat.shiftRight_eq_div_pow]
    rfl
  rw [isNegative, Bool.eq_iff_iff, beq_iff_eq, decide_eq_true_iff, ← UInt64.toNat_inj, hshift, hone]
  omega

theorem parts_eq (x : Double) : x.parts =
    if x.exponentBits = 0x7FF then
      if x.fractionBits = 0 then .infinite x.isNegative else .nan
    else if x.exponentBits = 0 then .finite x.isNegative x.fractionBits (-1074)
    else .finite x.isNegative (2 ^ 52 + x.fractionBits) ((x.exponentBits : Int) - 1075) := by
  have hexponent : ((x.bits >>> 52) &&& 0x7FF).toNat = x.exponentBits := by
    rw [UInt64.toNat_and, UInt64.toNat_shiftRight, Nat.shiftRight_eq_div_pow]
    exact Nat.and_two_pow_sub_one_eq_mod _ 11
  have hfraction : (x.bits &&& 0xFFFFFFFFFFFFF).toNat = x.fractionBits := by
    rw [UInt64.toNat_and]
    exact Nat.and_two_pow_sub_one_eq_mod _ 52
  unfold parts
  rw [hexponent, hfraction]
  rfl

/-- The parts of a finite number are its bits, with a first bit of the significand unless the
exponent has none. -/
theorem parts_eq_finite_iff : x.parts = .finite negative m e ↔
    negative = x.isNegative ∧ x.exponentBits ≠ 0x7FF ∧
      ((x.exponentBits = 0 ∧ m = x.fractionBits ∧ e = -1074) ∨
        (x.exponentBits ≠ 0 ∧ m = 2 ^ 52 + x.fractionBits ∧ e = x.exponentBits - 1075)) := by
  rw [parts_eq]
  split
  · split <;> simp [*]
  · split
    · simp [*, eq_comm]
    · simp only [DoubleParts.finite.injEq]
      grind

theorem fits_of_parts (h : x.parts = .finite negative m e) : Format.binary64.Fits m e := by
  obtain ⟨-, hexponent, hparts⟩ := parts_eq_finite_iff.mp h
  have hbits : x.exponentBits < 2 ^ 11 := Nat.mod_lt _ (by decide)
  have hfraction : x.fractionBits < 2 ^ 52 := Nat.mod_lt _ (by decide)
  constructor <;> simp only [Format.binary64] <;> omega

theorem toNat_signBit_or {n : Nat} (hn : n < 2 ^ 63) :
    (signBit negative ||| UInt64.ofNat n).toNat = (if negative then 2 ^ 63 else 0) + n := by
  have hn' : (UInt64.ofNat n).toNat = n := UInt64.toNat_ofNat_of_lt' (Nat.lt_trans hn (by decide))
  rw [UInt64.toNat_or, hn']
  cases negative with
  | false => exact (Nat.zero_or n).trans (Nat.zero_add n).symm
  | true => exact (Nat.two_pow_add_eq_or_of_lt hn 1).symm

theorem eq_of_toNat {bits : UInt64} (h : bits.toNat = x.bits.toNat) : (⟨bits⟩ : Double) = x :=
  congrArg Double.mk (UInt64.toNat_inj.mp h)

theorem ofParts_of_parts (h : x.parts = .finite negative m e) : ofParts negative m e = x := by
  obtain ⟨hnegative, hexponent, hparts⟩ := parts_eq_finite_iff.mp h
  have hlt : x.bits.toNat < 2 ^ 64 := x.bits.toNat_lt
  have hbits : x.exponentBits < 2 ^ 11 := Nat.mod_lt _ (by decide)
  have hfraction : x.fractionBits < 2 ^ 52 := Nat.mod_lt _ (by decide)
  have hsplit : x.bits.toNat =
      (if negative then 2 ^ 63 else 0) + (x.exponentBits * 2 ^ 52 + x.fractionBits) := by
    rw [hnegative, isNegative_eq]
    simp only [decide_eq_true_eq, exponentBits, fractionBits]
    split <;> omega
  unfold ofParts
  rcases hparts with ⟨hzero, rfl, -⟩ | ⟨-, rfl, rfl⟩
  · rw [if_pos (show x.fractionBits < 0x10000000000000 from hfraction)]
    refine eq_of_toNat ?_
    rw [toNat_signBit_or (by omega), hsplit, hzero]
    omega
  · rw [if_neg (by omega)]
    refine eq_of_toNat ?_
    rw [toNat_signBit_or (by omega), hsplit]
    omega

theorem ofParts_zero (e e' : Int) : ofParts negative 0 e = ofParts negative 0 e' := by
  rw [ofParts, ofParts, if_pos (by decide), if_pos (by decide)]

/-! ## Digits -/

theorem countDigits_mul_ten {n : Nat} (hn : n ≠ 0) : countDigits (n * 10) = countDigits n + 1 := by
  have happend := Nat.toDigits_append_toDigits (b := 10) (d := 0) (by decide) (Nat.pos_of_ne_zero hn)
    (by decide)
  rw [Nat.add_zero, Nat.mul_comm] at happend
  rw [countDigits, ← happend, List.length_append]
  rfl

theorem countDigits_pos (n : Nat) : 0 < countDigits n := Nat.length_toDigits_pos

theorem countDigits_le_iff {n k : Nat} (hk : 0 < k) : countDigits n ≤ k ↔ n < 10 ^ k :=
  Nat.length_toDigits_le_iff (by decide) hk

theorem decimalRatio_snd_ne_zero (digits : Nat) (scale : Int) : (decimalRatio digits scale).2 ≠ 0 := by
  unfold decimalRatio
  split
  · exact Nat.one_ne_zero
  · exact Nat.ne_of_gt (Nat.pow_pos (by decide))

theorem decimalRatio_div (digits : Nat) (scale : Int) :
    ((decimalRatio digits scale).1 : ℚ) / (decimalRatio digits scale).2 = digits * 10 ^ scale := by
  unfold decimalRatio
  split
  · next hscale =>
    obtain ⟨k, rfl⟩ := Int.eq_ofNat_of_zero_le hscale
    simp
  · next hscale =>
    obtain ⟨k, hk⟩ : ∃ k : Nat, scale = -k := ⟨(-scale).toNat, by omega⟩
    subst hk
    simp [div_eq_mul_inv]

theorem roundDecimal_mul_ten (digits : Nat) (scale : Int) :
    roundDecimal .binary64 (digits * 10) scale = roundDecimal .binary64 digits (scale + 1) := by
  unfold roundDecimal
  by_cases hdigits : digits = 0
  · rw [if_pos hdigits, if_pos (by rw [hdigits])]
  · have hmagnitude : (countDigits (digits * 10) : Int) + scale = countDigits digits + (scale + 1) := by
      rw [countDigits_mul_ten hdigits]
      omega
    have hround : Format.binary64.round (decimalRatio (digits * 10) scale).1
          (decimalRatio (digits * 10) scale).2 =
        Format.binary64.round (decimalRatio digits (scale + 1)).1
          (decimalRatio digits (scale + 1)).2 := by
      refine Format.round_congr (by decide) (decimalRatio_snd_ne_zero _ _)
        (decimalRatio_snd_ne_zero _ _) ?_
      rw [decimalRatio_div, decimalRatio_div, zpow_add_one₀ (by norm_num)]
      push_cast
      ring
    rw [if_neg hdigits, if_neg (Nat.mul_ne_zero hdigits (by decide)), hmagnitude]
    simp only [hround]

theorem ofDecimal_mul_ten (negative : Bool) (digits : Nat) (scale : Int) :
    ofDecimal negative (digits * 10) scale = ofDecimal negative digits (scale + 1) := by
  rw [ofDecimal, roundDecimal_mul_ten]
  rfl

theorem ofDecimal_mul_pow (negative : Bool) (digits k : Nat) (scale : Int) :
    ofDecimal negative (digits * 10 ^ k) scale = ofDecimal negative digits (scale + k) := by
  induction k generalizing digits scale with
  | zero => simp
  | succ k ih =>
    rw [Nat.pow_succ', ← Nat.mul_assoc, ih, ofDecimal_mul_ten]
    congr 1
    omega

theorem ofDecimal_stripZerosFrom (negative : Bool) (fuel : Nat) (decimal : Decimal) :
    ofDecimal negative (stripZerosFrom fuel decimal).digits (stripZerosFrom fuel decimal).scale =
      ofDecimal negative decimal.digits decimal.scale := by
  induction fuel generalizing decimal with
  | zero => rfl
  | succ fuel ih =>
    obtain ⟨digits, scale⟩ := decimal
    unfold stripZerosFrom
    split
    · next hzero =>
      rw [ih, ← ofDecimal_mul_ten, Nat.div_mul_cancel (Nat.dvd_of_mod_eq_zero hzero.2)]
    · rfl

/-! ## Candidates -/

theorem ofDecimal_onGrid {tie : Tie} {n d : Nat} {scale : Int} {decimal : Decimal}
    (h : x.onGrid tie n d scale = some decimal) :
    ofDecimal x.isNegative decimal.digits decimal.scale = x := by
  -- the preference among the two neighbours does not matter
  have hreads : ∀ low scale exact prefer, (if (!exact && ofDecimal x.isNegative (low + 1) scale == x) &&
      (prefer || !(ofDecimal x.isNegative low scale == x)) then some (Decimal.mk (low + 1) scale)
      else if ofDecimal x.isNegative low scale == x then some ⟨low, scale⟩ else none) = some decimal →
      ofDecimal x.isNegative decimal.digits decimal.scale = x := by
    intro low scale exact prefer h
    split at h
    · next hup =>
      obtain rfl := Option.some.inj h
      simp only [Bool.and_eq_true, beq_iff_eq] at hup
      exact hup.1.2
    · split at h
      · next hdown =>
        obtain rfl := Option.some.inj h
        exact beq_iff_eq.mp hdown
      · cases h
  exact hreads _ _ _ _ h

theorem ofDecimal_firstGrid {tie : Tie} {n d : Nat} {top : Int} {exact : Decimal}
    (hexact : ofDecimal x.isNegative exact.digits exact.scale = x) (tried left : Nat) :
    ofDecimal x.isNegative (x.firstGrid tie n d top exact tried left).digits
      (x.firstGrid tie n d top exact tried left).scale = x := by
  induction left generalizing tried with
  | zero => exact hexact
  | succ left ih =>
    unfold firstGrid
    split
    · next decimal hgrid => exact ofDecimal_onGrid hgrid
    · exact ih (tried + 1)

/-! ## The number itself -/

theorem ofDecimal_of_eq {digits : Nat} {scale : Int} (h : x.parts = .finite negative m e)
    (hm : m ≠ 0) (heq : (digits : ℚ) * 10 ^ scale = m * 2 ^ e)
    (hlow : -400 ≤ (countDigits digits : Int) + scale)
    (hhigh : (countDigits digits : Int) + scale ≤ 400) :
    ofDecimal negative digits scale = x := by
  have hdigits : digits ≠ 0 := by
    rintro rfl
    rw [Nat.cast_zero, zero_mul, zero_eq_mul] at heq
    exact heq.elim (by exact_mod_cast hm) (zpow_ne_zero e two_ne_zero)
  have hround : Format.binary64.round (decimalRatio digits scale).1 (decimalRatio digits scale).2 =
      some (m, e) := by
    rw [← Format.round_of_fits (by decide) (fits_of_parts h) hm]
    refine Format.round_congr (by decide) (decimalRatio_snd_ne_zero _ _)
      (binaryRatio_snd_ne_zero _ _) ?_
    rw [decimalRatio_div, binaryRatio_div, heq]
  unfold ofDecimal roundDecimal
  rw [if_neg hdigits, if_neg (Int.not_lt.mpr hlow), if_neg (Int.not_lt.mpr hhigh)]
  simp only [hround]
  exact ofParts_of_parts h

theorem ofDecimal_exact_of_nonneg (h : x.parts = .finite negative m e) (hm : m ≠ 0) (he : 0 ≤ e) :
    ofDecimal negative (m <<< e.toNat) 0 = x := by
  obtain ⟨k, rfl⟩ := Int.eq_ofNat_of_zero_le he
  have hfits := fits_of_parts h
  have hlt : m <<< k < 10 ^ 400 := by
    have hk : k ≤ 971 := Int.ofNat_le.mp hfits.exponent_le
    rw [Nat.shiftLeft_eq]
    calc m * 2 ^ k < 2 ^ 53 * 2 ^ k := Nat.mul_lt_mul_of_pos_right hfits.lt (Nat.two_pow_pos k)
      _ ≤ 2 ^ 53 * 2 ^ 971 := Nat.mul_le_mul_left _ (Nat.pow_le_pow_right (by decide) hk)
      _ ≤ 10 ^ 400 := by decide +kernel
  have hdigits : countDigits (m <<< k) ≤ 400 := (countDigits_le_iff (by decide)).mpr hlt
  refine ofDecimal_of_eq h hm ?_ (by omega) (by simpa using hdigits)
  simp [Nat.shiftLeft_eq]

theorem le_countDigits_mul_pow_five {k : Nat} (hm : m ≠ 0) (hk : k ≤ 1074) :
    k ≤ countDigits (m * 5 ^ k) + 400 := by
  by_contra hmany
  have hpos := countDigits_pos (m * 5 ^ k)
  have hlt : m * 5 ^ k < 10 ^ (k - 401) := by
    rw [← countDigits_le_iff (by omega)]
    omega
  have hpow : 2 ^ k ≤ 10 ^ 401 := calc
    2 ^ k ≤ 2 ^ 1074 := Nat.pow_le_pow_right (by decide) hk
    _ ≤ 10 ^ 401 := by decide +kernel
  have hless : 10 ^ k < 10 ^ k := calc
    10 ^ k = 5 ^ k * 2 ^ k := Nat.mul_pow 5 2 k
    _ ≤ m * (5 ^ k * 2 ^ k) := Nat.le_mul_of_pos_left _ (Nat.pos_of_ne_zero hm)
    _ = m * 5 ^ k * 2 ^ k := (Nat.mul_assoc _ _ _).symm
    _ < 10 ^ (k - 401) * 2 ^ k := Nat.mul_lt_mul_of_pos_right hlt (Nat.two_pow_pos k)
    _ ≤ 10 ^ (k - 401) * 10 ^ 401 := Nat.mul_le_mul_left _ hpow
    _ = 10 ^ k := by
        rw [← Nat.pow_add]
        congr 1
        omega
  exact Nat.lt_irrefl _ hless

theorem countDigits_mul_pow_five_le {k : Nat} (hm : m < 2 ^ 53) :
    countDigits (m * 5 ^ k) ≤ 400 + k := by
  have hlarge : 2 ^ 53 ≤ 10 ^ 400 := by decide +kernel
  have hm' : m < 10 ^ 400 := Nat.lt_of_lt_of_le hm hlarge
  rw [countDigits_le_iff (by omega), Nat.pow_add]
  calc m * 5 ^ k < 10 ^ 400 * 5 ^ k := Nat.mul_lt_mul_of_pos_right hm' (Nat.pow_pos (by decide))
    _ ≤ 10 ^ 400 * 10 ^ k := Nat.mul_le_mul_left _ (Nat.pow_le_pow_left (by decide) k)

theorem ofDecimal_exact_of_neg (h : x.parts = .finite negative m e) (hm : m ≠ 0) (he : e < 0) :
    ofDecimal negative (m * 5 ^ (-e).toNat) e = x := by
  obtain ⟨k, rfl⟩ : ∃ k : Nat, e = -k := ⟨(-e).toNat, by omega⟩
  have hfits := fits_of_parts h
  have hk : k ≤ 1074 := by
    have hle := hfits.le_exponent
    simp only [Format.binary64] at hle
    omega
  have hlow := le_countDigits_mul_pow_five hm hk
  have hhigh : countDigits (m * 5 ^ k) ≤ 400 + k := countDigits_mul_pow_five_le hfits.lt
  have hten : (10 : ℚ) ^ k = 5 ^ k * 2 ^ k := by exact_mod_cast Nat.mul_pow 5 2 k
  rw [show (-(-(k : Int))).toNat = k by omega]
  refine ofDecimal_of_eq h hm ?_ (by omega) (by omega)
  rw [zpow_neg, zpow_neg, zpow_natCast, zpow_natCast, hten]
  push_cast
  field_simp

theorem isFinite_iff : x.isFinite = true ↔ ∃ m e, x.parts = .finite x.isNegative m e := by
  unfold isFinite
  constructor
  · intro h
    split at h
    · next negative m e hparts =>
      obtain rfl := (parts_eq_finite_iff.mp hparts).1
      exact ⟨m, e, hparts⟩
    · cases h
  · rintro ⟨m, e, hparts⟩
    rw [hparts]

/-- **A finite number is read back from the decimal that it is written with.** -/
theorem ofDecimal_shortest (tie : Tie) (h : x.isFinite = true) :
    ofDecimal x.isNegative (x.shortest tie).digits (x.shortest tie).scale = x := by
  obtain ⟨m, e, hparts⟩ := isFinite_iff.mp h
  unfold shortest
  rw [hparts]
  dsimp only
  split
  · next hm =>
    subst hm
    unfold ofDecimal roundDecimal
    rw [if_pos rfl]
    exact (ofParts_zero _ _).trans (ofParts_of_parts hparts)
  · next hm =>
    rw [stripZeros, ofDecimal_stripZerosFrom]
    refine ofDecimal_firstGrid ?_ _ _
    split
    · next he => exact ofDecimal_exact_of_nonneg hparts hm he
    · next he => exact ofDecimal_exact_of_neg hparts hm (Int.not_le.mp he)

theorem shortest_scale_eq_zero (tie : Tie) (h : x.isFinite = true)
    (hdigits : (x.shortest tie).digits = 0) : (x.shortest tie).scale = 0 := by
  obtain ⟨m, e, hparts⟩ := isFinite_iff.mp h
  have hm : m = 0 := by
    have hread := ofDecimal_shortest tie h
    rw [hdigits] at hread
    unfold ofDecimal roundDecimal at hread
    rw [if_pos rfl] at hread
    have hzero : ∀ negative e, ∃ e', (ofParts negative 0 e).parts = .finite negative 0 e' := by
      intro negative e
      refine ⟨-1074, ?_⟩
      rw [ofParts, if_pos (by decide)]
      cases negative <;> decide
    obtain ⟨e', he'⟩ := hzero x.isNegative Format.binary64.minExponent
    rw [show ofParts x.isNegative 0 Format.binary64.minExponent = x from hread, hparts] at he'
    exact (DoubleParts.finite.inj he').2.1
  unfold shortest
  rw [hparts]
  exact congrArg Decimal.scale (if_pos hm)

end Double

end Telemetry

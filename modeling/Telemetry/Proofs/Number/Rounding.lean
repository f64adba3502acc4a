import Mathlib.Data.Int.Log
import Mathlib.Data.Rat.Floor
import Telemetry.Number.Double

/-!
# Rounding

Rounding a fraction to a binary format depends on the number that it stands for, and not on its
numerator and denominator (`Format.round_congr`), and a number that fits the format is left as it is
(`Format.round_of_fits`).

The exponent is the binary logarithm of the number, below which the significand has as many bits as
the format offers (`Format.exponentOf_eq`).

* `Format.Fits`: a significand and an exponent that the format offers, with as many bits as it can.
* `binaryRatio`: a significand and an exponent as a fraction.
-/

namespace Telemetry

variable {n d m : Nat} {e : Int} {f : Format}

/-! ## Fractions -/

theorem roundHalfEven_mul_left {k : Nat} (hk : 0 < k) :
    roundHalfEven (k * n) (k * d) = roundHalfEven n d := by
  have hcmp : ∀ a b : Nat, k * a < k * b ↔ a < b := fun a b => Nat.mul_lt_mul_left hk
  unfold roundHalfEven
  rw [Nat.mul_div_mul_left n d hk, Nat.mul_mod_mul_left]
  simp only [Nat.mul_left_comm 2 k, hcmp]

theorem roundHalfEven_mul_self (hd : 0 < d) : roundHalfEven (m * d) d = m := by
  unfold roundHalfEven
  rw [Nat.mul_div_cancel m hd, Nat.mul_mod_left]
  exact if_pos hd

theorem scaleDown_mul_left (k : Nat) (e : Int) : scaleDown (k * n) (k * d) e =
    (k * (scaleDown n d e).1, k * (scaleDown n d e).2) := by
  unfold scaleDown
  split <;> simp only [Nat.shiftLeft_eq, Nat.mul_assoc]

theorem scaleDown_pos (hd : 0 < d) (e : Int) : 0 < (scaleDown n d e).2 := by
  unfold scaleDown
  split
  · exact Nat.pos_of_ne_zero (by simp [Nat.shiftLeft_eq, Nat.ne_of_gt hd])
  · exact hd

theorem scaleDown_div (n d : Nat) (e : Int) :
    ((scaleDown n d e).1 : ℚ) / (scaleDown n d e).2 = n / d / 2 ^ e := by
  unfold scaleDown
  split
  · next he =>
    obtain ⟨k, rfl⟩ := Int.eq_ofNat_of_zero_le he
    simp [Nat.shiftLeft_eq, div_div]
  · next he =>
    obtain ⟨k, hk⟩ : ∃ k : Nat, e = -k := ⟨(-e).toNat, by omega⟩
    subst hk
    simp [Nat.shiftLeft_eq, mul_div_right_comm]

/-! ## Exponents -/

/-- A fraction has as many bits before its point as its whole part. -/
theorem div_lt_iff_of_pos {a b : Nat} (hb : 0 < b) (k : Nat) :
    a / b < 2 ^ k ↔ (a : ℚ) / b < (2 : ℚ) ^ (k : Int) := by
  have hb' : (0 : ℚ) < b := by exact_mod_cast hb
  rw [Nat.div_lt_iff_lt_mul hb, div_lt_iff₀ hb', zpow_natCast]
  exact_mod_cast Iff.rfl

theorem log_mem (hn : n ≠ 0) (hd : d ≠ 0) :
    Int.log 2 ((n : ℚ) / d) = (n.log2 : Int) - d.log2 ∨
      Int.log 2 ((n : ℚ) / d) = (n.log2 : Int) - d.log2 - 1 := by
  have hn' : (0 : ℚ) < n := by exact_mod_cast Nat.pos_of_ne_zero hn
  have hd' : (0 : ℚ) < d := by exact_mod_cast Nat.pos_of_ne_zero hd
  have hlow : (2 : ℚ) ^ ((n.log2 : Int) - d.log2 - 1) ≤ n / d := by
    rw [le_div_iff₀ hd']
    calc (2 : ℚ) ^ ((n.log2 : Int) - d.log2 - 1) * d
        ≤ 2 ^ ((n.log2 : Int) - d.log2 - 1) * 2 ^ ((d.log2 + 1 : Nat) : Int) := by
          refine mul_le_mul_of_nonneg_left ?_ (zpow_pos two_pos _).le
          exact_mod_cast (Nat.lt_log2_self (n := d)).le
      _ = 2 ^ (n.log2 : Int) := by
          rw [← zpow_add₀ two_ne_zero]
          congr 1
          omega
      _ ≤ n := by exact_mod_cast Nat.log2_self_le hn
  have hhigh : (n : ℚ) / d < 2 ^ ((n.log2 : Int) - d.log2 + 1) := by
    rw [div_lt_iff₀ hd']
    calc (n : ℚ) < 2 ^ ((n.log2 + 1 : Nat) : Int) := by exact_mod_cast Nat.lt_log2_self (n := n)
      _ = 2 ^ ((n.log2 : Int) - d.log2 + 1) * 2 ^ (d.log2 : Int) := by
          rw [← zpow_add₀ two_ne_zero]
          congr 1
          omega
      _ ≤ 2 ^ ((n.log2 : Int) - d.log2 + 1) * d := by
          refine mul_le_mul_of_nonneg_left ?_ (zpow_pos two_pos _).le
          exact_mod_cast Nat.log2_self_le hd
  have hpos : (0 : ℚ) < n / d := div_pos hn' hd'
  have hlow' : (n.log2 : Int) - d.log2 - 1 ≤ Int.log 2 ((n : ℚ) / d) :=
    (Int.zpow_le_iff_le_log one_lt_two hpos).mp (by exact_mod_cast hlow)
  have hhigh' : Int.log 2 ((n : ℚ) / d) < (n.log2 : Int) - d.log2 + 1 :=
    (Int.lt_zpow_iff_log_lt one_lt_two hpos).mp (by exact_mod_cast hhigh)
  omega

theorem Format.exponentOf_eq (hf : 0 < f.precision) (hn : n ≠ 0) (hd : d ≠ 0) :
    f.exponentOf n d = max (Int.log 2 ((n : ℚ) / d) - (f.precision - 1)) f.minExponent := by
  have hpos : (0 : ℚ) < n / d :=
    div_pos (by exact_mod_cast Nat.pos_of_ne_zero hn) (by exact_mod_cast Nat.pos_of_ne_zero hd)
  unfold exponentOf
  generalize hguess : (n.log2 : Int) - d.log2 - (f.precision - 1) = guess
  have hbelow : (scaleDown n d guess).1 / (scaleDown n d guess).2 < 1 <<< (f.precision - 1) ↔
      Int.log 2 ((n : ℚ) / d) < n.log2 - d.log2 := by
    rw [Nat.one_shiftLeft, div_lt_iff_of_pos (scaleDown_pos (Nat.pos_of_ne_zero hd) guess),
      scaleDown_div, div_lt_iff₀ (zpow_pos two_pos _), ← zpow_add₀ two_ne_zero,
      ← Int.lt_zpow_iff_log_lt one_lt_two hpos]
    rw [show (((f.precision - 1 : Nat) : Int) + guess) = n.log2 - d.log2 by omega]
    exact_mod_cast Iff.rfl
  simp only [hbelow]
  congr 1
  have hlog := log_mem hn hd
  split <;> omega

/-! ## Rounding -/

theorem Format.round_mul_left (hf : 0 < f.precision) {k : Nat} (hk : 0 < k) (hd : d ≠ 0) :
    f.round (k * n) (k * d) = f.round n d := by
  have hk' : (k : ℚ) ≠ 0 := by exact_mod_cast Nat.ne_of_gt hk
  unfold round
  by_cases hn : n = 0
  · rw [if_pos hn, if_pos (by rw [hn, Nat.mul_zero])]
  · have hkn : k * n ≠ 0 := Nat.mul_ne_zero (Nat.ne_of_gt hk) hn
    have hkd : k * d ≠ 0 := Nat.mul_ne_zero (Nat.ne_of_gt hk) hd
    have hexponent : f.exponentOf (k * n) (k * d) = f.exponentOf n d := by
      rw [exponentOf_eq hf hkn hkd, exponentOf_eq hf hn hd, Nat.cast_mul, Nat.cast_mul,
        mul_div_mul_left _ _ hk']
    rw [if_neg hn, if_neg hkn, hexponent]
    simp only [scaleDown_mul_left, roundHalfEven_mul_left hk]

/-- **Rounding depends on the number alone.** -/
theorem Format.round_congr {n' d' : Nat} (hf : 0 < f.precision) (hd : d ≠ 0) (hd' : d' ≠ 0)
    (h : (n : ℚ) / d = n' / d') : f.round n d = f.round n' d' := by
  have hcross : n * d' = n' * d := by
    rw [div_eq_div_iff (by exact_mod_cast hd) (by exact_mod_cast hd')] at h
    exact_mod_cast h
  rw [← round_mul_left hf (Nat.pos_of_ne_zero hd') hd, ← round_mul_left hf (Nat.pos_of_ne_zero hd) hd',
    Nat.mul_comm d' n, hcross, Nat.mul_comm n' d, Nat.mul_comm d' d]

/-- A significand and an exponent of the format. Only at the least exponent may the significand have
fewer bits than the format offers. -/
structure Format.Fits (f : Format) (m : Nat) (e : Int) : Prop where
  lt : m < 2 ^ f.precision
  le_exponent : f.minExponent ≤ e
  exponent_le : e ≤ f.maxExponent
  full : f.minExponent < e → 2 ^ (f.precision - 1) ≤ m

/-- The fraction of a significand and an exponent. -/
def binaryRatio (m : Nat) (e : Int) : Nat × Nat :=
  if 0 ≤ e then (m <<< e.toNat, 1) else (m, 1 <<< (-e).toNat)

theorem binaryRatio_fst_ne_zero (hm : m ≠ 0) (e : Int) : (binaryRatio m e).1 ≠ 0 := by
  unfold binaryRatio
  split
  · simp [Nat.shiftLeft_eq, hm]
  · exact hm

theorem binaryRatio_snd_ne_zero (m : Nat) (e : Int) : (binaryRatio m e).2 ≠ 0 := by
  unfold binaryRatio
  split
  · exact Nat.one_ne_zero
  · simp [Nat.shiftLeft_eq]

theorem binaryRatio_div (m : Nat) (e : Int) :
    ((binaryRatio m e).1 : ℚ) / (binaryRatio m e).2 = m * 2 ^ e := by
  unfold binaryRatio
  split
  · next he =>
    obtain ⟨k, rfl⟩ := Int.eq_ofNat_of_zero_le he
    simp [Nat.shiftLeft_eq]
  · next he =>
    obtain ⟨k, hk⟩ : ∃ k : Nat, e = -k := ⟨(-e).toNat, by omega⟩
    subst hk
    simp [Nat.shiftLeft_eq, div_eq_mul_inv]

theorem Format.exponentOf_of_fits (hf : 0 < f.precision) (h : f.Fits m e) (hm : m ≠ 0) :
    f.exponentOf (binaryRatio m e).1 (binaryRatio m e).2 = e := by
  have hpow : (0 : ℚ) < 2 ^ e := zpow_pos two_pos e
  have hpos : (0 : ℚ) < m * 2 ^ e := mul_pos (by exact_mod_cast Nat.pos_of_ne_zero hm) hpow
  have hhigh : Int.log 2 ((m : ℚ) * 2 ^ e) < f.precision + e := by
    refine (Int.lt_zpow_iff_log_lt one_lt_two hpos).mp ?_
    rw [Nat.cast_ofNat, zpow_add₀ two_ne_zero]
    exact mul_lt_mul_of_pos_right (by exact_mod_cast h.lt) hpow
  have hlow : f.minExponent < e → ((f.precision - 1 : Nat) : Int) + e ≤ Int.log 2 ((m : ℚ) * 2 ^ e) := by
    intro hlt
    refine (Int.zpow_le_iff_le_log one_lt_two hpos).mp ?_
    rw [Nat.cast_ofNat, zpow_add₀ two_ne_zero]
    exact mul_le_mul_of_nonneg_right (by exact_mod_cast h.full hlt) hpow.le
  rw [exponentOf_eq hf (binaryRatio_fst_ne_zero hm e) (binaryRatio_snd_ne_zero m e), binaryRatio_div]
  have hle := h.le_exponent
  rcases hle.eq_or_lt with heq | hlt
  · omega
  · have hlow := hlow hlt
    omega

/-- **A number of the format is rounded to itself.** -/
theorem Format.round_of_fits (hf : 0 < f.precision) (h : f.Fits m e) (hm : m ≠ 0) :
    f.round (binaryRatio m e).1 (binaryRatio m e).2 = some (m, e) := by
  have hd := scaleDown_pos (n := (binaryRatio m e).1)
    (Nat.pos_of_ne_zero (binaryRatio_snd_ne_zero m e)) e
  have hdiv := scaleDown_div (binaryRatio m e).1 (binaryRatio m e).2 e
  have hexact : (scaleDown (binaryRatio m e).1 (binaryRatio m e).2 e).1 =
      m * (scaleDown (binaryRatio m e).1 (binaryRatio m e).2 e).2 := by
    rw [binaryRatio_div, mul_div_cancel_right₀ _ (zpow_ne_zero e two_ne_zero),
      div_eq_iff (by exact_mod_cast Nat.ne_of_gt hd)] at hdiv
    exact_mod_cast hdiv
  have hfull : m ≠ 1 <<< f.precision := by
    rw [Nat.one_shiftLeft]
    exact Nat.ne_of_lt h.lt
  unfold round
  rw [if_neg (binaryRatio_fst_ne_zero hm e), exponentOf_of_fits hf h hm]
  simp only [hexact, roundHalfEven_mul_self hd, if_neg hfull]
  exact if_neg (Int.not_lt.mpr h.exponent_le)

end Telemetry

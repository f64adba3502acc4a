import Mathlib.Algebra.Group.Nat.Defs
import Mathlib.Data.List.Basic
import Telemetry.Number.Text

/-!
# Digits

Decimal digits as they are written and read. Digits are read up to the first other character
(`takeWhile_digits`, `dropWhile_digits`), the digits of a number denote it (`readDigits_toDigits`),
and no zero stands before others (`toDigits_ne_zero_cons`).

* `Undigited`: no digit is at the beginning of a text.
-/

namespace Telemetry

variable {digits rest : List Char} {n : Nat}

/-- No digit is at the beginning. -/
def Undigited (cs : List Char) : Prop := ∀ c ∈ cs.head?, c.isDigit = false

theorem undigited_cons {c : Char} (hc : c.isDigit = false) : Undigited (c :: rest) := by
  intro d hd
  obtain rfl := Option.some.inj hd
  exact hc

theorem takeWhile_digits (h : ∀ c ∈ digits, c.isDigit = true) (hrest : Undigited rest) :
    (digits ++ rest).takeWhile Char.isDigit = digits := by
  have hnone : rest.takeWhile Char.isDigit = [] := by
    cases rest with
    | nil => rfl
    | cons c rest => rw [List.takeWhile_cons, hrest c rfl]; rfl
  rw [List.takeWhile_append_of_pos h, hnone, List.append_nil]

theorem dropWhile_digits (h : ∀ c ∈ digits, c.isDigit = true) (hrest : Undigited rest) :
    (digits ++ rest).dropWhile Char.isDigit = rest := by
  have hall : rest.dropWhile Char.isDigit = rest := by
    cases rest with
    | nil => rfl
    | cons c rest => rw [List.dropWhile_cons, hrest c rfl]; rfl
  rw [List.dropWhile_append_of_pos h, hall]

theorem isDigit_toDigits (n : Nat) : ∀ c ∈ Nat.toDigits 10 n, c.isDigit = true :=
  fun _ => Nat.isDigit_of_mem_toDigits (by decide) (by decide)

theorem isDigit_replicate_zero (n : Nat) : ∀ c ∈ List.replicate n '0', c.isDigit = true := by
  intro c hc
  obtain rfl := List.eq_of_mem_replicate hc
  decide

namespace Double

theorem readDigits_eq (cs : List Char) : readDigits cs = Nat.ofDigitChars 10 cs 0 := rfl

theorem readDigits_toDigits (n : Nat) : readDigits (Nat.toDigits 10 n) = n :=
  Nat.ofDigitChars_ten_toDigits

theorem readDigits_append_zeros (cs : List Char) (n : Nat) :
    readDigits (cs ++ List.replicate n '0') = readDigits cs * 10 ^ n := by
  rw [readDigits_eq, Nat.ofDigitChars_append, Nat.ofDigitChars_replicate_zero, Nat.mul_comm]
  rfl

theorem readDigits_zeros_append (cs : List Char) (n : Nat) :
    readDigits (List.replicate n '0' ++ cs) = readDigits cs := by
  rw [readDigits_eq, Nat.ofDigitChars_append, Nat.ofDigitChars_replicate_zero, Nat.mul_zero]
  rfl

end Double

theorem digitChar_ne_zero (hn : 0 < n) (h : n < 10) : n.digitChar ≠ '0' := by
  have hall : ∀ m < 10, 0 < m → m.digitChar ≠ '0' := by decide
  exact hall n h hn

theorem head_toDigits (hn : 0 < n) : ∃ c cs, Nat.toDigits 10 n = c :: cs ∧ c ≠ '0' := by
  induction n using Nat.base_induction 10 (by decide) with
  | single m hm => exact ⟨_, [], Nat.toDigits_of_lt_base hm, digitChar_ne_zero hn hm⟩
  | digit m k hk hm ih =>
    obtain ⟨c, cs, hcs, hc⟩ := ih hm
    rw [← Nat.toDigits_append_toDigits (by decide) hm hk, hcs]
    exact ⟨c, cs ++ Nat.toDigits 10 k, rfl, hc⟩

theorem toDigits_ne_zero_cons {c : Char} {cs : List Char} :
    Nat.toDigits 10 n ≠ '0' :: c :: cs := by
  intro heq
  rcases Nat.eq_zero_or_pos n with rfl | hn
  · cases heq
  · obtain ⟨d, ds, hds, hd⟩ := head_toDigits hn
    exact hd (List.cons.inj (hds.symm.trans heq)).1

end Telemetry

import Mathlib.Data.Nat.Bitwise
import Mathlib.Logic.Function.Iterate
import Telemetry.Regex.Matcher

/-!
# Sets of positions

The matcher moves sets of positions, and every position that it reaches ends a span that starts at
one of those it came from (`moves_advance`). So it finds an expression in a text exactly if some
part of the text is matched (`isFound_iff`).

All sets stay within the text. A repetition is a chain of spans (`spans_repeated_iff`), and one
without a bound needs no more of them than the text has characters, since a span that stays where it
is can be left out of a chain (`Chain.shorten`).

* `Chain`: a number of steps in a row.
* `Moves`: a map of sets that follows a relation between positions.
-/

namespace Telemetry.Regex

variable {text : List Char} {r : Regex} {i j k n m : Nat} {R : Nat → Nat → Prop}

/-! ## Chains -/

/-- So many steps lead from one position to the other. -/
def Chain (R : Nat → Nat → Prop) : Nat → Nat → Nat → Prop
  | 0, i, j => i = j
  | n + 1, i, j => ∃ k, R i k ∧ Chain R n k j

theorem chain_add : Chain R (n + m) i j ↔ ∃ k, Chain R n i k ∧ Chain R m k j := by
  induction n generalizing i with
  | zero => simp [Chain]
  | succ n ih =>
    rw [Nat.succ_add]
    simp only [Chain, ih]
    constructor
    · rintro ⟨k, hk, l, hn, hm⟩
      exact ⟨l, ⟨k, hk, hn⟩, hm⟩
    · rintro ⟨l, ⟨k, hk, hn⟩, hm⟩
      exact ⟨k, hk, l, hn, hm⟩

/-- With steps that may be left out, so many steps are that many at most. -/
theorem chain_or_eq_iff : Chain (fun i j => i = j ∨ R i j) n i j ↔ ∃ m ≤ n, Chain R m i j := by
  induction n generalizing i with
  | zero => simp [Chain]
  | succ n ih =>
    constructor
    · rintro ⟨k, hstep, hchain⟩
      obtain ⟨m, hm, hchain⟩ := ih.mp hchain
      rcases hstep with rfl | hstep
      · exact ⟨m, Nat.le_succ_of_le hm, hchain⟩
      · exact ⟨m + 1, Nat.succ_le_succ hm, k, hstep, hchain⟩
    · rintro ⟨m, hm, hchain⟩
      cases m with
      | zero => exact ⟨i, .inl rfl, ih.mpr ⟨0, Nat.zero_le n, hchain⟩⟩
      | succ m =>
        obtain ⟨k, hstep, hchain⟩ := hchain
        exact ⟨k, .inr hstep, ih.mpr ⟨m, Nat.le_of_succ_le_succ hm, hchain⟩⟩

/-- A chain of steps that never go back needs no step that stays. -/
theorem Chain.shorten (hR : ∀ i j, R i j → i ≤ j) (h : Chain R n i j) :
    i ≤ j ∧ ∃ m ≤ j - i, Chain R m i j := by
  induction n generalizing i with
  | zero =>
    obtain rfl : i = j := h
    exact ⟨Nat.le_refl i, 0, Nat.zero_le _, rfl⟩
  | succ n ih =>
    obtain ⟨k, hstep, hchain⟩ := h
    have hik := hR i k hstep
    obtain ⟨hkj, m, hm, hshort⟩ := ih hchain
    refine ⟨Nat.le_trans hik hkj, ?_⟩
    by_cases heq : i = k
    · subst heq
      exact ⟨m, hm, hshort⟩
    · exact ⟨m + 1, by omega, k, hstep, hshort⟩

theorem Chain.le_length (hR : ∀ i j, R i j → i ≤ text.length → j ≤ text.length) (h : Chain R n i j)
    (hi : i ≤ text.length) : j ≤ text.length := by
  induction n generalizing i with
  | zero =>
    obtain rfl : i = j := h
    exact hi
  | succ n ih =>
    obtain ⟨k, hstep, hchain⟩ := h
    exact ih hchain (hR i k hstep hi)

/-! ## Spans -/

theorem Spans.le (h : Spans text r i j) : i ≤ j := by
  induction h with
  | empty | look | repeatedNone => exact Nat.le_refl _
  | oneOf => exact Nat.le_succ _
  | cat _ _ iha ihb => exact Nat.le_trans iha ihb
  | altLeft _ _ ih | altRight _ _ ih => exact ih
  | repeatedLeast _ _ _ ihr ihrest | repeatedMore _ _ _ ihr ihrest => exact Nat.le_trans ihr ihrest

theorem Spans.le_length (h : Spans text r i j) (hi : i ≤ text.length) : j ≤ text.length := by
  induction h with
  | empty | look | repeatedNone => exact hi
  | oneOf s i c hc =>
    obtain ⟨hlt, -⟩ := List.getElem?_eq_some_iff.mp hc
    exact hlt
  | cat _ _ iha ihb => exact ihb (iha hi)
  | altLeft _ _ ih | altRight _ _ ih => exact ih hi
  | repeatedLeast _ _ _ ihr ihrest | repeatedMore _ _ _ ihr ihrest => exact ihrest (ihr hi)

theorem spans_repeated_iff {least : Nat} {most : Option Nat} :
    Spans text (.repeated r least most) i j ↔
      ∃ n, least ≤ n ∧ (∀ b ∈ most, n ≤ b) ∧ Chain (Spans text r) n i j := by
  constructor
  · intro h
    generalize hs : Regex.repeated r least most = s at h
    induction h generalizing least most with
    | repeatedNone r' most' i =>
      cases hs
      exact ⟨0, Nat.le_refl 0, fun b _ => Nat.zero_le b, rfl⟩
    | repeatedLeast hr _ hmost _ ihrest =>
      cases hs
      obtain ⟨n, hn, hb, hchain⟩ := ihrest rfl
      refine ⟨n + 1, Nat.succ_le_succ hn, fun b hmem => ?_, _, hr, hchain⟩
      have hpred := hb (b - 1) (Option.mem_map.mpr ⟨b, hmem, rfl⟩)
      have hpos : b ≠ 0 := fun hzero => hmost (hzero ▸ hmem)
      omega
    | repeatedMore hr _ hmost _ ihrest =>
      cases hs
      obtain ⟨n, hn, hb, hchain⟩ := ihrest rfl
      refine ⟨n + 1, Nat.zero_le _, fun b hmem => ?_, _, hr, hchain⟩
      have hpred := hb (b - 1) (Option.mem_map.mpr ⟨b, hmem, rfl⟩)
      have hpos : b ≠ 0 := fun hzero => hmost (hzero ▸ hmem)
      omega
    | _ => cases hs
  · rintro ⟨n, hn, hb, hchain⟩
    induction n generalizing i least most with
    | zero =>
      obtain rfl : i = j := hchain
      obtain rfl : least = 0 := Nat.le_zero.mp hn
      exact .repeatedNone r most i
    | succ n ih =>
      obtain ⟨k, hstep, hchain⟩ := hchain
      have hmost : most ≠ some 0 := fun hzero => Nat.not_succ_le_zero n (hb 0 hzero)
      have hpred : ∀ b ∈ most.map (· - 1), n ≤ b := by
        intro b hmem
        obtain ⟨b', hmem', rfl⟩ := Option.mem_map.mp hmem
        exact Nat.le_sub_one_of_lt (hb b' hmem')
      cases least with
      | zero => exact .repeatedMore hstep (ih (Nat.zero_le n) hpred hchain) hmost
      | succ least =>
        exact .repeatedLeast hstep (ih (Nat.le_of_succ_le_succ hn) hpred hchain) hmost

/-! ## Sets as numbers -/

theorem testBit_positionsFrom (p : Option Char → Option Char → Bool) (last : Option Char)
    (text : List Char) (j : Nat) : (positionsFrom p last text).testBit j = true ↔
      j ≤ text.length ∧ p (if j = 0 then last else text[j - 1]?) text[j]? = true := by
  induction text generalizing last j with
  | nil =>
    rw [positionsFrom]
    cases j with
    | zero => cases h : p last none <;> simp [h]
    | succ j => cases h : p last none <;> simp [Nat.testBit_succ]
  | cons c rest ih =>
    rw [positionsFrom]
    cases j with
    | zero => cases h : p last (some c) <;> simp [h, Nat.testBit_zero]
    | succ j =>
      have hhalf : ((if p last (some c) = true then 1 else 0) +
          2 * positionsFrom p (some c) rest) / 2 = positionsFrom p (some c) rest := by
        split <;> omega
      rw [Nat.testBit_succ, hhalf, ih]
      cases j <;> simp

theorem testBit_positions (p : Option Char → Option Char → Bool) (j : Nat) :
    (positions text p).testBit j = true ↔
      j ≤ text.length ∧ p (before text j) (after text j) = true :=
  testBit_positionsFrom p none text j

/-- The set holds positions of the text only. -/
def Within (text : List Char) (here : Nat) : Prop :=
  ∀ i, here.testBit i = true → i ≤ text.length

/-- From a set of positions of the text, the map reaches those that the relation leads to. -/
def Moves (text : List Char) (f : Nat → Nat) (R : Nat → Nat → Prop) : Prop :=
  ∀ here, Within text here → ∀ j, (f here).testBit j = true ↔ ∃ i, here.testBit i = true ∧ R i j

section Moves

variable {f : Nat → Nat} {here : Nat} (hf : Moves text f R)
  (hR : ∀ i j, R i j → i ≤ text.length → j ≤ text.length)

include hf

theorem Moves.or_self : Moves text (fun here => here ||| f here) fun i j => i = j ∨ R i j := by
  intro here hwithin j
  rw [Nat.testBit_or, Bool.or_eq_true, hf here hwithin]
  constructor
  · rintro (hj | ⟨i, hi, hstep⟩)
    · exact ⟨j, hj, .inl rfl⟩
    · exact ⟨i, hi, .inr hstep⟩
  · rintro ⟨i, hi, rfl | hstep⟩
    · exact .inl hi
    · exact .inr ⟨i, hi, hstep⟩

include hR

theorem Moves.within (hhere : Within text here) : Within text (f here) := by
  intro j hj
  obtain ⟨i, hi, hstep⟩ := (hf here hhere j).mp hj
  exact hR i j hstep (hhere i hi)

theorem Moves.iterate (n : Nat) : Moves text f^[n] (Chain R n) := by
  induction n with
  | zero =>
    intro here _ j
    simp [Chain]
  | succ n ih =>
    intro here hhere j
    rw [Function.iterate_succ_apply, ih (f here) (hf.within hR hhere)]
    simp only [hf here hhere, Chain]
    constructor
    · rintro ⟨k, ⟨i, hi, hstep⟩, hchain⟩
      exact ⟨i, hi, k, hstep, hchain⟩
    · rintro ⟨i, hi, k, hstep, hchain⟩
      exact ⟨k, ⟨i, hi, hstep⟩, hchain⟩

end Moves

/-- Nothing is missed when a repetition stops early, because it goes on where it is. -/
theorem times_eq_iterate (f : Nat → Nat) (n here : Nat) : times f n here = f^[n] here := by
  induction n generalizing here with
  | zero => rfl
  | succ n ih =>
    rw [times, Function.iterate_succ_apply]
    split
    · next hfixed => rw [hfixed, Function.iterate_fixed hfixed]
    · exact ih (f here)

theorem within_eq_iterate (f : Nat → Nat) (n here : Nat) :
    within f n here = (fun here => here ||| f here)^[n] here := by
  induction n generalizing here with
  | zero => rfl
  | succ n ih =>
    rw [within, Function.iterate_succ_apply]
    split
    · next hfixed => rw [hfixed, Function.iterate_fixed hfixed]
    · exact ih (here ||| f here)

section Moves

variable {f : Nat → Nat} (hf : Moves text f R) (hR : ∀ i j, R i j → i ≤ text.length → j ≤ text.length)

include hf hR

theorem Moves.times (n : Nat) : Moves text (Regex.times f n) (Chain R n) := by
  rw [funext (times_eq_iterate f n)]
  exact hf.iterate hR n

theorem Moves.upTo (n : Nat) : Moves text (Regex.within f n) fun i j => ∃ m ≤ n, Chain R m i j := by
  have hR' : ∀ i j, i = j ∨ R i j → i ≤ text.length → j ≤ text.length := by
    rintro i j (rfl | hstep) hi
    · exact hi
    · exact hR i j hstep hi
  rw [funext (within_eq_iterate f n)]
  simp only [← chain_or_eq_iff]
  exact hf.or_self.iterate hR' n

end Moves

/-! ## The matcher -/

theorem moves_look (l : Look) : Moves text (advance text (.look l)) (Spans text (.look l)) := by
  intro here hhere j
  rw [advance, Nat.testBit_and, Bool.and_eq_true, testBit_positions]
  constructor
  · rintro ⟨hj, -, hholds⟩
    exact ⟨j, hj, .look l j hholds⟩
  · rintro ⟨i, hi, hspan⟩
    cases hspan with
    | look l i hholds => exact ⟨hi, hhere _ hi, hholds⟩

theorem moves_oneOf (s : Unicode.CodeSet) :
    Moves text (advance text (.oneOf s)) (Spans text (.oneOf s)) := by
  intro here hhere j
  have hnext : ∀ i, (positions text fun _ next => next.any fun c => s.contains c.toNat).testBit i =
      true ↔ i ≤ text.length ∧ ∃ c, text[i]? = some c ∧ s.contains c.toNat = true := by
    intro i
    rw [testBit_positions, after, Option.any_eq_true]
  rw [advance, Nat.testBit_shiftLeft, Bool.and_eq_true, decide_eq_true_eq, Nat.testBit_and,
    Bool.and_eq_true, hnext]
  constructor
  · rintro ⟨hj, hi, -, c, hc, hs⟩
    have hspan := Spans.oneOf s (j - 1) c hc hs
    rw [Nat.sub_add_cancel hj] at hspan
    exact ⟨j - 1, hi, hspan⟩
  · rintro ⟨i, hi, hspan⟩
    cases hspan with
    | oneOf s i c hc hs => exact ⟨Nat.le_add_left 1 i, hi, hhere i hi, c, hc, hs⟩

theorem moves_cat {a b : Regex} (ha : Moves text (advance text a) (Spans text a))
    (hb : Moves text (advance text b) (Spans text b)) :
    Moves text (advance text (.cat a b)) (Spans text (.cat a b)) := by
  intro here hhere j
  have hmid : Within text (advance text a here) := ha.within (fun _ _ => Spans.le_length) hhere
  rw [advance, hb _ hmid]
  simp only [ha here hhere]
  constructor
  · rintro ⟨k, ⟨i, hi, hspan⟩, hspan'⟩
    exact ⟨i, hi, .cat hspan hspan'⟩
  · rintro ⟨i, hi, hspan⟩
    cases hspan with
    | cat hspan hspan' => exact ⟨_, ⟨i, hi, hspan⟩, hspan'⟩

theorem moves_alt {a b : Regex} (ha : Moves text (advance text a) (Spans text a))
    (hb : Moves text (advance text b) (Spans text b)) :
    Moves text (advance text (.alt a b)) (Spans text (.alt a b)) := by
  intro here hhere j
  rw [advance, Nat.testBit_or, Bool.or_eq_true, ha here hhere, hb here hhere]
  constructor
  · rintro (⟨i, hi, hspan⟩ | ⟨i, hi, hspan⟩)
    · exact ⟨i, hi, .altLeft b hspan⟩
    · exact ⟨i, hi, .altRight a hspan⟩
  · rintro ⟨i, hi, hspan⟩
    cases hspan with
    | altLeft b hspan => exact .inl ⟨i, hi, hspan⟩
    | altRight a hspan => exact .inr ⟨i, hi, hspan⟩

section Repeated

variable {least : Nat} (hr : Moves text (advance text r) (Spans text r))

include hr

theorem within_times {here : Nat} (hhere : Within text here) :
    Within text (times (advance text r) least here) := by
  intro j hj
  obtain ⟨i, hi, hchain⟩ := (hr.times (fun _ _ => Spans.le_length) least here hhere j).mp hj
  exact hchain.le_length (fun _ _ => Spans.le_length) (hhere i hi)

/-- Without a bound, no more spans are needed than the text has positions. -/
theorem moves_repeated_none :
    Moves text (advance text (.repeated r least none)) (Spans text (.repeated r least none)) := by
  have hle : ∀ i j, Spans text r i j → i ≤ text.length → j ≤ text.length := fun _ _ => Spans.le_length
  intro here hhere j
  rw [advance, hr.upTo hle _ _ (within_times hr hhere)]
  simp only [spans_repeated_iff, hr.times hle least here hhere]
  constructor
  · rintro ⟨k, ⟨i, hi, hleast⟩, m, -, hchain⟩
    exact ⟨i, hi, least + m, Nat.le_add_right _ _, nofun, chain_add.mpr ⟨k, hleast, hchain⟩⟩
  · rintro ⟨i, hi, n, hn, -, hchain⟩
    obtain ⟨more, rfl⟩ := Nat.exists_eq_add_of_le hn
    have hj := hchain.le_length hle (hhere i hi)
    obtain ⟨k, hleast, hrest⟩ := chain_add.mp hchain
    obtain ⟨-, m, hm, hshort⟩ := hrest.shorten fun _ _ => Spans.le
    exact ⟨k, ⟨i, hi, hleast⟩, m, by omega, hshort⟩

theorem moves_repeated_some (most : Nat) :
    Moves text (advance text (.repeated r least (some most)))
      (Spans text (.repeated r least (some most))) := by
  have hle : ∀ i j, Spans text r i j → i ≤ text.length → j ≤ text.length := fun _ _ => Spans.le_length
  intro here hhere j
  rw [advance]
  simp only [spans_repeated_iff]
  split
  · next hless =>
    simp only [Nat.zero_testBit, Bool.false_eq_true, false_iff, not_exists, not_and]
    intro i _ n hn hb
    have hle := hb most rfl
    omega
  · next hmost =>
    rw [hr.upTo hle _ _ (within_times hr hhere)]
    simp only [hr.times hle least here hhere]
    constructor
    · rintro ⟨k, ⟨i, hi, hleast⟩, m, hm, hchain⟩
      refine ⟨i, hi, least + m, Nat.le_add_right _ _, ?_, chain_add.mpr ⟨k, hleast, hchain⟩⟩
      rintro b ⟨⟩
      omega
    · rintro ⟨i, hi, n, hn, hb, hchain⟩
      obtain ⟨more, rfl⟩ := Nat.exists_eq_add_of_le hn
      obtain ⟨k, hleast, hrest⟩ := chain_add.mp hchain
      have hbound := hb most rfl
      exact ⟨k, ⟨i, hi, hleast⟩, more, by omega, hrest⟩

end Repeated

theorem moves_advance (r : Regex) : Moves text (advance text r) (Spans text r) := by
  induction r with
  | empty =>
    intro here _ j
    have hstays : advance text .empty here = here := rfl
    rw [hstays]
    constructor
    · exact fun hj => ⟨j, hj, .empty j⟩
    · rintro ⟨i, hi, hspan⟩
      cases hspan with
      | empty => exact hi
  | look l => exact moves_look l
  | oneOf s => exact moves_oneOf s
  | cat a b iha ihb => exact moves_cat iha ihb
  | alt a b iha ihb => exact moves_alt iha ihb
  | repeated r least most ih =>
    cases most with
    | none => exact moves_repeated_none ih
    | some most => exact moves_repeated_some ih most

/-- **The matcher finds an expression exactly if it matches some part of the text.** -/
theorem isFound_iff {r : Regex} {text : List Char} : r.isFound text = true ↔ r.Found text := by
  have hall : ∀ i, ((1 <<< (text.length + 1)) - 1).testBit i = true ↔ i ≤ text.length := by
    intro i
    rw [Nat.one_shiftLeft, Nat.testBit_two_pow_sub_one, decide_eq_true_eq, Nat.lt_succ_iff]
  have hmoves := (moves_advance r : Moves text _ _) _ fun i => (hall i).mp
  rw [isFound, bne_iff_ne]
  constructor
  · intro hne
    obtain ⟨j, hj⟩ := Nat.exists_testBit_of_ne_zero hne
    obtain ⟨i, hi, hspan⟩ := (hmoves j).mp hj
    exact ⟨i, j, hspan.le, hspan.le_length ((hall i).mp hi), hspan⟩
  · rintro ⟨i, j, hij, hj, hspan⟩ hzero
    have hbit := (hmoves j).mpr ⟨i, (hall i).mpr (Nat.le_trans hij hj), hspan⟩
    rw [hzero, Nat.zero_testBit] at hbit
    cases hbit

end Telemetry.Regex

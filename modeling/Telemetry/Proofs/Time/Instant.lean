import Telemetry.Proofs.Number.Digits
import Telemetry.Proofs.Time.Calendar
import Telemetry.Time.Instant

/-!
# Instants read back

The text of an instant denotes it, and only instants that there are are read
(`Instant.parse_text_iff`). Every number of the text has as many digits as are read, so that it does
not matter what stands behind it. The year alone may have more digits than four, and then it has a
sign and ends before the next mark.

* `Instant.IsValid`: the instants that there are.
-/

namespace Telemetry.Instant

open Unicode

variable {c : Char} {n width : Nat} {digits rest : List Char}

/-- The instants of the years that are told apart. Only the last second of a minute may be a leap
second. -/
structure IsValid (t : Instant) : Prop where
  first_le : first ≤ t.seconds
  le_last : t.seconds ≤ last
  nanos_lt : t.nanos < 2000000000
  leap : 1000000000 ≤ t.nanos → t.seconds % 60 = 59

/-! ## Blanks -/

theorem isBlank_of_isDigit (h : c.isDigit = true) : isBlank c = false := by
  rw [Char.isDigit_iff_toNat] at h
  have hspace : (c == ' ') = false := by
    refine beq_eq_false_iff_ne.mpr fun hc => ?_
    subst hc
    exact absurd h.1 (by decide)
  have hcontrol : ¬ c ≤ '\r' := by
    rw [Char.le_def, UInt32.le_iff_toNat_le]
    exact Nat.not_le.mpr (Nat.lt_of_lt_of_le (by decide) h.1)
  have hascii : ¬ 127 < c.toNat := by
    have hnine : '9'.toNat = 57 := rfl
    omega
  simp only [isBlank, isTabled, hspace, hcontrol, hascii, decide_false, Bool.false_and, Bool.and_false,
    Bool.or_false]

theorem trimmed_cons (h : isBlank c = false) : trimmed (c :: rest) = c :: rest := by
  rw [trimmed, List.dropWhile_cons, h]
  rfl

theorem trimmed_digits (h : ∀ c ∈ digits, c.isDigit = true) (hne : digits ≠ []) :
    trimmed (digits ++ rest) = digits ++ rest := by
  cases digits with
  | nil => exact absurd rfl hne
  | cons c digits => exact trimmed_cons (isBlank_of_isDigit (h c List.mem_cons_self))

/-! ## Numbers -/

theorem numberOf_padded (width n : Nat) : numberOf (padded width n) = n :=
  (Double.readDigits_zeros_append _ _).trans (Double.readDigits_toDigits n)

theorem isDigit_padded (width n : Nat) : ∀ c ∈ padded width n, c.isDigit = true := by
  intro c hc
  exact (List.mem_append.mp hc).elim (isDigit_replicate_zero _ c) (isDigit_toDigits n c)

theorem padded_ne_nil (width n : Nat) : padded width n ≠ [] :=
  List.append_ne_nil_of_right_ne_nil _ Nat.toDigits_ne_nil

theorem length_padded (hwidth : 0 < width) (h : n < 10 ^ width) : (padded width n).length = width := by
  have hlength := (Nat.length_toDigits_le_iff (by decide) hwidth).mpr h
  rw [padded, List.length_append, List.length_replicate]
  omega

theorem readNumber_some (h : ∀ c ∈ digits, c.isDigit = true) (hne : digits ≠ []) :
    readNumber (some digits.length) (digits ++ rest) = some (numberOf digits, rest) := by
  unfold readNumber
  have htake : ((digits ++ rest).takeWhile Char.isDigit).take digits.length = digits := by
    rw [List.takeWhile_append_of_pos h, List.take_left]
  simp only [Option.elim_some, htake]
  rw [if_neg (by simpa using hne), List.drop_left]

theorem readNumber_none (h : ∀ c ∈ digits, c.isDigit = true) (hne : digits ≠ [])
    (hrest : Undigited rest) : readNumber none (digits ++ rest) = some (numberOf digits, rest) := by
  unfold readNumber
  simp only [Option.elim_none, takeWhile_digits h hrest]
  rw [if_neg (by simpa using hne), List.drop_left]

theorem readNumber_padded (hwidth : 0 < width) (h : n < 10 ^ width) :
    readNumber (some width) (padded width n ++ rest) = some (n, rest) := by
  have hread : readNumber (some (padded width n).length) (padded width n ++ rest) =
      some (numberOf (padded width n), rest) :=
    readNumber_some (isDigit_padded width n) (padded_ne_nil width n)
  rwa [length_padded hwidth h, numberOf_padded] at hread

theorem readPair_padded (h : n < 100) : readPair (padded 2 n ++ rest) = some (n, rest) := by
  rw [readPair, trimmed_digits (isDigit_padded 2 n) (padded_ne_nil 2 n)]
  exact readNumber_padded (by decide) h

theorem readMarked_padded {mark : Char} (hmark : isBlank mark = false) (h : n < 100) :
    readMarked mark (mark :: (padded 2 n ++ rest)) = some (n, rest) := by
  rw [readMarked, trimmed_cons hmark]
  exact (if_pos rfl).trans (readPair_padded h)

theorem readYear_digits (h : ∀ c ∈ digits, c.isDigit = true) (hne : digits ≠ []) :
    readYear (digits ++ rest) =
      (readNumber (some 4) (digits ++ rest)).map fun (n, rest) => ((n : Int), rest) := by
  unfold readYear
  rw [trimmed_digits h hne]
  split
  case h_1 heq | h_2 heq =>
    obtain ⟨c, cs, rfl⟩ := List.exists_cons_of_ne_nil hne
    obtain ⟨rfl, -⟩ := List.cons.inj heq
    exact absurd (h _ List.mem_cons_self) (by decide)
  case h_3 => rfl

theorem readYear_minus (cs : List Char) :
    readYear ('-' :: cs) = (readNumber none cs).map fun (n, rest) => (-(n : Int), rest) := rfl

theorem readYear_plus (cs : List Char) :
    readYear ('+' :: cs) = (readNumber none cs).map fun (n, rest) => ((n : Int), rest) := rfl

theorem readYear_yearChars (year : Int) (hrest : Undigited rest) :
    readYear (yearChars year ++ rest) = some (year, rest) := by
  have hnumber := readNumber_none (isDigit_padded 4 year.natAbs) (padded_ne_nil 4 year.natAbs) hrest
  rw [numberOf_padded] at hnumber
  unfold yearChars
  split
  case isTrue hyear =>
    have hback : (year.toNat : Int) = year := by omega
    have hfour : year.toNat < 10 ^ 4 := by omega
    rw [readYear_digits (isDigit_padded 4 _) (padded_ne_nil 4 _), readNumber_padded (by decide) hfour,
      Option.map_some]
    exact congrArg (fun year => some (year, rest)) hback
  case isFalse hyear =>
    split
    · have hback : -(year.natAbs : Int) = year := by omega
      rw [List.cons_append, readYear_minus, hnumber, Option.map_some]
      exact congrArg (fun year => some (year, rest)) hback
    · have hback : (year.natAbs : Int) = year := by omega
      rw [List.cons_append, readYear_plus, hnumber, Option.map_some]
      exact congrArg (fun year => some (year, rest)) hback

theorem readFraction_padded (hwidth : 0 < width) (hnine : width ≤ 9) (h : n < 10 ^ width)
    (hrest : Undigited rest) :
    readFraction ('.' :: padded width n ++ rest) = some (n * 10 ^ (9 - width), rest) := by
  have htake : (padded width n).take 9 = padded width n :=
    List.take_of_length_le ((length_padded hwidth h).symm ▸ hnine)
  unfold readFraction
  rw [List.cons_append]
  split
  case h_2 hpoint => exact absurd rfl (hpoint _)
  case h_1 heq =>
    obtain ⟨-, rfl⟩ := List.cons.inj heq
    rw [takeWhile_digits (isDigit_padded width n) hrest, dropWhile_digits (isDigit_padded width n) hrest]
    split
    case h_1 hnil => exact absurd hnil (padded_ne_nil width n)
    case h_2 =>
      dsimp only
      rw [htake, numberOf_padded, length_padded hwidth h]
      rfl

theorem readFraction_fractionChars (h : n < 1000000000) :
    readFraction (fractionChars n ++ ['Z']) = some (n, ['Z']) := by
  have hrest : Undigited ['Z'] := undigited_cons rfl
  unfold fractionChars
  split
  case isTrue hzero =>
    subst hzero
    rfl
  split
  case isTrue hmillis =>
    have hback : n / 1000000 * 10 ^ (9 - 3) = n :=
      Nat.div_mul_cancel (Nat.dvd_of_mod_eq_zero hmillis)
    rw [readFraction_padded (by decide) (by decide) (by omega) hrest, hback]
  split
  case isTrue hmicros =>
    have hback : n / 1000 * 10 ^ (9 - 6) = n :=
      Nat.div_mul_cancel (Nat.dvd_of_mod_eq_zero hmicros)
    rw [readFraction_padded (by decide) (by decide) (by omega) hrest, hback]
  case isFalse =>
    rw [readFraction_padded (by decide) (by decide) h hrest, Nat.sub_self, Nat.pow_zero, Nat.mul_one]

/-! ## Instants -/

theorem month_day_lt {date : Date} (h : date.isValid = true) : date.month < 100 ∧ date.day < 100 := by
  simp only [Date.isValid, Bool.and_eq_true, decide_eq_true_eq] at h
  have hmonth : Date.daysInMonth date.year date.month ≤ 31 := by
    unfold Date.daysInMonth
    split
    · split <;> decide
    all_goals decide
  omega

/-- The mark between a date and a time of day. -/
def takeSeparator : List Char → Option (List Char)
  | 'T' :: cs | 't' :: cs | ' ' :: cs => some cs
  | _ => none

/-- The second that is read from a date and a time of day in universal time. -/
def secondsOf (date : Date) (hour minute second : Nat) : Int :=
  date.toDays * 86400 + hour * 3600 + minute * 60 + min second 59

/-- Reads the time of day behind a date. -/
def readTime (date : Date) (cs : List Char) : Option Instant := do
  let (hour, cs) ← readPair cs
  let (minute, cs) ← readMarked ':' cs
  let (second, cs) ← readMarked ':' cs
  let (nanos, cs) ← readFraction cs
  let (offset, cs) ← readOffset cs
  let seconds := secondsOf date hour minute second - offset
  if (trimmed cs).isEmpty ∧ date.isValid ∧ -262143 ≤ date.year ∧ date.year ≤ 262142 ∧
      hour ≤ 23 ∧ minute ≤ 59 ∧ second ≤ 60 ∧ first ≤ seconds ∧ seconds ≤ last then
    some ⟨seconds, nanos + (if second = 60 then 1000000000 else 0)⟩
  else none

theorem parse_eq (s : String) : parse s =
    (readYear s.toList).bind fun (year, cs) => (readMarked '-' cs).bind fun (month, cs) =>
      (readMarked '-' cs).bind fun (day, cs) => (takeSeparator cs).bind fun cs =>
        readTime ⟨year, month, day⟩ cs := by
  unfold parse
  refine congrArg (Option.bind _) ?_
  funext (year, cs)
  refine congrArg (Option.bind _) ?_
  funext (month, cs)
  refine congrArg (Option.bind _) ?_
  funext (day, cs)
  dsimp only
  split
  case h_4 hT ht hblank =>
    rw [takeSeparator.eq_4 cs hT ht hblank]
    rfl
  all_goals rfl

theorem readTime_written {date : Date} {hour minute second nanos : Nat} (hdate : date.isValid = true)
    (hfirst : -262143 ≤ date.year) (hlast : date.year ≤ 262142) (hhour : hour ≤ 23)
    (hminute : minute ≤ 59) (hsecond : second ≤ 60) (hnanos : nanos < 1000000000)
    (hge : first ≤ secondsOf date hour minute second)
    (hle : secondsOf date hour minute second ≤ last) :
    readTime date (padded 2 hour ++ ':' :: (padded 2 minute ++ ':' :: (padded 2 second ++
      (fractionChars nanos ++ ['Z'])))) =
    some ⟨secondsOf date hour minute second, nanos + if second = 60 then 1000000000 else 0⟩ := by
  have hend : readOffset ['Z'] = some (0, []) := rfl
  unfold readTime
  simp only [Option.bind_eq_bind]
  rw [readPair_padded (by omega), Option.bind_some]
  dsimp only
  rw [readMarked_padded rfl (by omega), Option.bind_some]
  dsimp only
  rw [readMarked_padded rfl (by omega), Option.bind_some]
  dsimp only
  rw [readFraction_fractionChars hnanos, Option.bind_some]
  dsimp only
  rw [hend, Option.bind_some]
  dsimp only
  rw [Int.sub_zero]
  exact if_pos ⟨rfl, hdate, hfirst, hlast, hhour, hminute, hsecond, hge, hle⟩

theorem parse_date {date : Date} (hdate : date.isValid = true) (cs : List Char) :
    parse (String.ofList (yearChars date.year ++ '-' :: (padded 2 date.month ++
      '-' :: (padded 2 date.day ++ 'T' :: cs)))) = readTime date cs := by
  obtain ⟨hmonth, hday⟩ := month_day_lt hdate
  rw [parse_eq, String.toList_ofList, readYear_yearChars _ (undigited_cons rfl), Option.bind_some]
  dsimp only
  rw [readMarked_padded rfl hmonth, Option.bind_some]
  dsimp only
  rw [readMarked_padded rfl hday]
  rfl

/-- **An instant is read back from its text.** -/
theorem parse_text {t : Instant} (h : t.IsValid) : parse t.text = some t := by
  obtain ⟨hfirst, hlast, hnanos, hleap⟩ := h
  have hbounds : (Date.mk (-262143) 1 1).toDays ≤ t.seconds / 86400 ∧
      t.seconds / 86400 ≤ (Date.mk 262142 12 31).toDays := by
    unfold first at hfirst
    unfold last at hlast
    omega
  obtain ⟨hyear, hyear'⟩ := Date.year_ofDays_bounds hbounds.1 hbounds.2
  have hseconds : secondsOf (Date.ofDays (t.seconds / 86400)) ((t.seconds % 86400).toNat / 3600)
      ((t.seconds % 86400).toNat / 60 % 60)
      ((t.seconds % 86400).toNat % 60 + t.nanos / 1000000000) = t.seconds := by
    rw [secondsOf, Date.toDays_ofDays]
    omega
  have hdate := Date.isValid_ofDays (t.seconds / 86400)
  have hread := readTime_written hdate hyear hyear'
    (show (t.seconds % 86400).toNat / 3600 ≤ 23 by omega)
    (show (t.seconds % 86400).toNat / 60 % 60 ≤ 59 by omega)
    (show (t.seconds % 86400).toNat % 60 + t.nanos / 1000000000 ≤ 60 by omega)
    (show t.nanos % 1000000000 < 1000000000 by omega)
    (by rwa [hseconds]) (by rwa [hseconds])
  -- within a leap second the second is written as 60, which stands for the nanoseconds beyond a
  -- second
  have hback : (t.nanos % 1000000000 +
      if (t.seconds % 86400).toNat % 60 + t.nanos / 1000000000 = 60 then 1000000000 else 0) = t.nanos := by
    split <;> omega
  rw [hseconds, hback] at hread
  simp only [text, List.append_assoc, List.cons_append]
  rw [parse_date hdate, hread]

/-! ## What is read -/

theorem numberOf_lt (h : ∀ c ∈ digits, c.isDigit = true) : numberOf digits < 10 ^ digits.length := by
  suffices hfold : ∀ n, digits.foldl (fun n c => 10 * n + (c.toNat - '0'.toNat)) n <
      (n + 1) * 10 ^ digits.length by
    simpa [numberOf] using hfold 0
  induction digits with
  | nil =>
    intro n
    simp
  | cons c digits ih =>
    intro n
    have hc := Char.isDigit_iff_toNat.mp (h c List.mem_cons_self)
    have hzero : '0'.toNat = 48 := rfl
    have hnine : '9'.toNat = 57 := rfl
    have hstep : 10 * n + (c.toNat - '0'.toNat) + 1 ≤ (n + 1) * 10 := by omega
    have hrest := ih (fun d hd => h d (List.mem_cons_of_mem c hd)) (10 * n + (c.toNat - '0'.toNat))
    rw [List.foldl_cons, List.length_cons, Nat.pow_succ', ← Nat.mul_assoc]
    exact Nat.lt_of_lt_of_le hrest (Nat.mul_le_mul_right _ hstep)

theorem readFraction_lt {cs : List Char} (h : readFraction cs = some (n, rest)) : n < 1000000000 := by
  unfold readFraction at h
  split at h
  case h_1 cs =>
    split at h
    case h_1 => cases h
    case h_2 =>
      dsimp only at h
      generalize hnine : (cs.takeWhile Char.isDigit).take 9 = nine at h
      have hdigits : ∀ c ∈ nine, c.isDigit = true := by
        intro c hc
        rw [← hnine] at hc
        exact List.all_eq_true.mp List.all_takeWhile c (List.mem_of_mem_take hc)
      have hlength : nine.length ≤ 9 := hnine ▸ List.length_take_le _ _
      cases h
      calc numberOf nine * 10 ^ (9 - nine.length)
          < 10 ^ nine.length * 10 ^ (9 - nine.length) :=
            Nat.mul_lt_mul_of_pos_right (numberOf_lt hdigits) (Nat.pow_pos (by decide))
        _ = 10 ^ 9 := by rw [← Nat.pow_add, Nat.add_sub_cancel' hlength]
        _ = 1000000000 := rfl
  case h_2 =>
    cases h
    decide

theorem readOffset_emod {cs : List Char} {offset : Int} (h : readOffset cs = some (offset, rest)) :
    offset % 60 = 0 := by
  unfold readOffset at h
  split at h
  case h_1 | h_2 =>
    cases h
    rfl
  case h_3 =>
    split at h
    · cases h
      rfl
    -- a sign and two pairs of digits: hours and minutes
    split at h
    · split at h
      · split at h
        · dsimp only at h
          split at h
          · split at h
            · cases h
              omega
            · cases h
              omega
          · cases h
        · cases h
      · cases h
    · cases h

theorem isValid_of_readTime {date : Date} {cs : List Char} {t : Instant}
    (h : readTime date cs = some t) : t.IsValid := by
  unfold readTime at h
  simp only [Option.bind_eq_bind, Option.bind_eq_some_iff] at h
  obtain ⟨hour, -, minute, -, second, -, ⟨nanos, _⟩, hnanos, ⟨offset, _⟩, hoffset, h⟩ := h
  have hnanos := readFraction_lt hnanos
  have hoffset := readOffset_emod hoffset
  dsimp only at h
  split at h
  case isTrue hvalid =>
    obtain ⟨-, -, -, -, -, -, -, hfirst, hlast⟩ := hvalid
    obtain rfl := Option.some.inj h
    refine ⟨hfirst, hlast, ?_, ?_⟩
    · dsimp only
      split <;> omega
    · dsimp only
      unfold secondsOf
      split <;> omega
  case isFalse => cases h

theorem isValid_of_parse {s : String} {t : Instant} (h : parse s = some t) : t.IsValid := by
  rw [parse_eq] at h
  simp only [Option.bind_eq_some_iff] at h
  obtain ⟨year, -, month, -, day, -, cs, -, h⟩ := h
  exact isValid_of_readTime h

theorem parse_text_iff {t : Instant} : parse t.text = some t ↔ t.IsValid :=
  ⟨isValid_of_parse, parse_text⟩

end Telemetry.Instant

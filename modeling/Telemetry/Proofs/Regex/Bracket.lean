import Telemetry.Proofs.Regex.Escape
import Telemetry.Regex.Bracket

/-!
# Bracketed classes within a group

A class is read up to the bracket that closes it, and what is behind does not matter.

* `readBracket_append`: a class is the same class where a group ends behind it.
-/

namespace Telemetry.Regex

open Unicode

variable {f : Flags} {extended : Bool} {cs rest : List Char} {c : Char}

/-! ## The start of a level -/

/-- The mark of a class that is negated. -/
def negationMark : List Char → Bool × List Char
  | '^' :: rest => (true, rest)
  | cs => (false, cs)

theorem negationMark_of_ne (h : ∀ rest, cs ≠ '^' :: rest) : negationMark cs = (false, cs) := by
  unfold negationMark
  split
  · next heq => exact absurd rfl (h _)
  · rfl

theorem negationMark_append :
    negationMark (cs ++ closing) = ((negationMark cs).1, (negationMark cs).2 ++ closing) := by
  by_cases hmark : ∃ rest, cs = '^' :: rest
  · obtain ⟨rest, rfl⟩ := hmark
    rfl
  · rw [negationMark_of_ne (not_exists.mp hmark),
      negationMark_of_ne (append_closing_ne (by decide) (not_exists.mp hmark))]

/-- The level that starts behind some hyphens. -/
def levelFrom (negated : Bool) (parts : List SetPart) (cs : List Char) : Bracket × List Char :=
  match parts, cs with
  | [], ']' :: rest => (⟨negated, [⟨.single ']'.toNat, 0⟩], none⟩, rest)
  | _, _ => (⟨negated, parts, none⟩, cs)

theorem openBracket_eq : openBracket extended cs =
    levelFrom (negationMark (skipBlanks extended cs)).1
      ((collect extended (· != '-') (negationMark (skipBlanks extended cs)).2).1.map
        fun _ => SetPart.mk (.single '-'.toNat) 0)
      (collect extended (· != '-') (negationMark (skipBlanks extended cs)).2).2 := rfl

theorem levelFrom_append (negated : Bool) (parts : List SetPart) :
    levelFrom negated parts (c :: rest ++ closing) =
      ((levelFrom negated parts (c :: rest)).1, (levelFrom negated parts (c :: rest)).2 ++ closing) := by
  cases parts with
  | cons part parts => rfl
  | nil =>
    by_cases hc : c = ']'
    · subst hc
      rfl
    · simp [levelFrom, hc]

theorem openBracket_append {level : Bracket} (h : openBracket extended cs = (level, c :: rest)) :
    openBracket extended (cs ++ closing) = (level, c :: rest ++ closing) := by
  rw [openBracket_eq] at h ⊢
  cases hskip : skipBlanks extended cs with
  | nil =>
    rw [hskip] at h
    cases extended <;> cases (Prod.mk.inj h).2
  | cons d more =>
    rw [skipBlanks_append hskip, ← hskip, negationMark_append]
    generalize negationMark (skipBlanks extended cs) = mark at h ⊢
    cases hcollect : collect extended (· != '-') mark.2 with
    | mk hyphens behind =>
      rw [hcollect] at h
      cases behind with
      | nil => cases hyphens <;> cases (Prod.mk.inj h).2
      | cons b behind => rw [collect_append hcollect, levelFrom_append, h]

/-! ## Parts of a class -/

/-- The class whose name stands before `:]`. -/
def namedClass (f : Flags) (negated : Bool) (cs : List Char) :
    Option (Option SetPart × List Char) :=
  match cs.dropWhile (· != ':') with
  | ':' :: ']' :: rest =>
    let name := String.ofList (cs.takeWhile (· != ':'))
    (asciiClasses.find? (·.1 == name)).map fun (_, s) =>
      ((f.negate negated (f.fold s)).map fun s => ⟨s, 0⟩, rest)
  | _ => none

theorem readAsciiClass_colon : readAsciiClass f (':' :: cs) =
    namedClass f (negationMark cs).1 (negationMark cs).2 := by
  cases cs with
  | nil => rfl
  | cons c cs =>
    by_cases hc : c = '^'
    · subst hc
      rfl
    · simp only [readAsciiClass, negationMark, List.cons.injEq, hc, false_and, imp_self,
        implies_true]
      rfl

theorem namedClass_append (negated : Bool) : namedClass f negated (cs ++ closing) =
    (namedClass f negated cs).map fun read => (read.1, read.2 ++ closing) := by
  unfold namedClass
  cases hdrop : cs.dropWhile (· != ':') with
  | nil =>
    have hclosing : (cs ++ closing).dropWhile (· != ':') = [] := by
      rw [List.dropWhile_append, hdrop]
      rfl
    rw [hclosing]
    rfl
  | cons b more =>
    rw [dropWhile_append_closing hdrop, takeWhile_append_closing hdrop]
    by_cases hend : b = ':' ∧ ∃ rest, more = ']' :: rest
    · obtain ⟨rfl, rest, rfl⟩ := hend
      simp only [List.cons_append, Option.map_map]
      rfl
    · split
      · next rest heq =>
        obtain ⟨rfl, hmore⟩ := List.cons.inj heq
        have hne : ∀ rest, more ≠ ']' :: rest := fun rest hrest => hend ⟨rfl, rest, hrest⟩
        exact absurd hmore (append_closing_ne (by decide) hne rest)
      · split
        · next rest heq =>
          obtain ⟨rfl, hmore⟩ := List.cons.inj heq
          exact absurd ⟨rfl, rest, hmore⟩ hend
        · rfl

theorem readAsciiClass_append : readAsciiClass f (cs ++ closing) =
    (readAsciiClass f cs).map fun read => (read.1, read.2 ++ closing) := by
  by_cases hcolon : ∃ name, cs = ':' :: name
  · obtain ⟨name, rfl⟩ := hcolon
    rw [List.cons_append, readAsciiClass_colon, readAsciiClass_colon, negationMark_append,
      namedClass_append]
  · have hnone : ∀ {cs}, (∀ name, cs ≠ ':' :: name) → readAsciiClass f cs = none := by
      intro cs hcs
      unfold readAsciiClass
      split
      · next heq => exact absurd rfl (hcs _)
      · rfl
    rw [hnone (not_exists.mp hcolon),
      hnone (append_closing_ne (by decide) (not_exists.mp hcolon))]
    rfl

theorem goesOn_readMember : GoesOn (readMember extended) cs := by
  intro a rest h
  cases cs with
  | nil => cases h
  | cons c cs =>
    unfold readMember at h ⊢
    split at h
    · cases h
    · next heq =>
      obtain ⟨rfl, rfl⟩ := List.cons.inj heq
      exact goesOn_readEscape a rest h
    · next hne heq =>
      obtain ⟨rfl, rfl⟩ := List.cons.inj heq
      obtain ⟨rfl, rfl⟩ := Prod.mk.inj (Option.some.inj h)
      left
      rw [List.cons_append]
      split
      · next heq => cases heq
      · next heq => exact absurd (List.cons.inj heq).1 hne
      · next heq =>
        obtain ⟨rfl, rfl⟩ := List.cons.inj heq
        rfl

theorem peekPast_append (inComment : Bool) :
    peekPast inComment (cs ++ closing) = (peekPast inComment cs).or (some ')') := by
  induction cs generalizing inComment with
  | nil => cases inComment <;> decide
  | cons a cs ih =>
    rw [List.cons_append, peekPast, peekPast]
    split
    · exact ih inComment
    · split
      · exact ih true
      · rfl

theorem peekBlanks_append_iff (hc : c ≠ ')') (hblank : isBlank c = false) (hmark : c ≠ '#') :
    peekBlanks extended (cs ++ closing) = some c ↔ peekBlanks extended cs = some c := by
  cases extended with
  | false =>
    cases cs with
    | nil => exact iff_of_false (fun h => hc (Option.some.inj h).symm) (by rintro ⟨⟩)
    | cons a cs => rfl
  | true =>
    unfold peekBlanks
    rw [if_pos rfl, if_pos rfl, peekPast_append]
    cases hpast : peekPast false cs with
    | some d => rfl
    | none =>
      refine iff_of_false (fun h => hc (Option.some.inj h).symm) ?_
      intro h
      cases cs with
      | nil => cases h
      | cons a cs =>
        obtain rfl : a = c := Option.some.inj h
        rw [peekPast, hblank] at hpast
        simp [hmark] at hpast

/-- The range that has been read, if its bounds are characters in order. -/
def rangeBetween (f : Flags) (first : Atom) (read : Atom × List Char) :
    Option (SetPart × List Char) := do
  let first ← f.member first
  let last ← f.member read.1
  if first ≤ last then some (⟨.range first last, 0⟩, read.2) else none

/-- A hyphen that makes no range. -/
def isLoneHyphen (extended : Bool) (behind : List Char) : Bool :=
  peekBlanks extended behind == some ']' || peekBlanks extended behind == some '-'

/-- The member or the range that begins with a member. -/
def rangeFrom (f : Flags) (read : Atom × List Char) : Option (SetPart × List Char) :=
  match skipBlanks f.extended read.2 with
  | [] => none
  | '-' :: behind =>
    if isLoneHyphen f.extended behind then do
      let s ← f.setOf read.1
      return (⟨s, 0⟩, '-' :: behind)
    else (readMember f.extended (skipBlanks f.extended behind)).bind (rangeBetween f read.1)
  | rest => do
    let s ← f.setOf read.1
    return (⟨s, 0⟩, rest)

theorem readRange_eq : readRange f cs = (readMember f.extended cs).bind (rangeFrom f) := rfl

theorem isLoneHyphen_append :
    isLoneHyphen extended (cs ++ closing) = isLoneHyphen extended cs := by
  rw [Bool.eq_iff_iff]
  simp only [isLoneHyphen, Bool.or_eq_true, beq_iff_eq]
  exact or_congr (peekBlanks_append_iff (by decide) (by decide) (by decide))
    (peekBlanks_append_iff (by decide) (by decide) (by decide))

theorem rangeBetween_eq_some {first : Atom} {read : Atom × List Char} {part : SetPart}
    (h : rangeBetween f first read = some (part, rest)) :
    read.2 = rest ∧ ∀ more, rangeBetween f first (read.1, more) = some (part, more) := by
  unfold rangeBetween at h ⊢
  obtain ⟨low, hlow, h⟩ := Option.bind_eq_some_iff.mp h
  obtain ⟨high, hhigh, h⟩ := Option.bind_eq_some_iff.mp h
  split at h
  · next hle =>
    obtain ⟨rfl, rfl⟩ := Prod.mk.inj (Option.some.inj h)
    exact ⟨rfl, fun more => by simp [hlow, hhigh, hle]⟩
  · cases h

theorem readRange_singleton : readRange f [c] = none := by
  rw [readRange_eq, Option.bind_eq_none_iff]
  rintro ⟨first, rest⟩ hfirst
  have hrest : rest = [] := by
    unfold readMember at hfirst
    split at hfirst
    · cases hfirst
    · next heq =>
      obtain ⟨-, rfl⟩ := List.cons.inj heq
      cases hfirst
    · next heq =>
      obtain ⟨-, rfl⟩ := List.cons.inj heq
      exact (Prod.mk.inj (Option.some.inj hfirst)).2.symm
  subst hrest
  unfold rangeFrom
  rw [skipBlanks_nil]

theorem rangeFrom_append {first : Atom} {part : SetPart}
    (h : rangeFrom f (first, cs) = some (part, c :: rest)) :
    rangeFrom f (first, cs ++ closing) = some (part, c :: rest ++ closing) := by
  unfold rangeFrom at h ⊢
  cases hskip : skipBlanks f.extended cs with
  | nil =>
    rw [hskip] at h
    cases h
  | cons d more =>
    rw [hskip] at h
    rw [skipBlanks_append hskip, List.cons_append]
    by_cases hd : d = '-'
    · subst hd
      simp only [isLoneHyphen_append] at h ⊢
      split at h
      · next hlone =>
        obtain ⟨s, hs, hpair⟩ := Option.bind_eq_some_iff.mp h
        obtain ⟨rfl, hrest⟩ := Prod.mk.inj (Option.some.inj hpair)
        rw [if_pos hlone, hs, ← hrest]
        rfl
      · next hlone =>
        rw [if_neg hlone]
        obtain ⟨⟨last, behind⟩, hlast, hrange⟩ := Option.bind_eq_some_iff.mp h
        obtain ⟨rfl, hmore⟩ := rangeBetween_eq_some hrange
        cases hbehind : skipBlanks f.extended more with
        | nil =>
          rw [hbehind] at hlast
          cases hlast
        | cons e behind =>
          rw [skipBlanks_append hbehind, ← hbehind, goesOn_readMember.of_cons hlast]
          exact hmore _
    · simp only [List.cons.injEq, hd, false_and, imp_self, implies_true] at h ⊢
      obtain ⟨s, hs, hpair⟩ := Option.bind_eq_some_iff.mp h
      obtain ⟨rfl, hrest⟩ := Prod.mk.inj (Option.some.inj hpair)
      rw [hs, ← hrest]
      rfl

theorem readRange_append {part : SetPart} (h : readRange f cs = some (part, c :: rest)) :
    readRange f (cs ++ closing) = some (part, c :: rest ++ closing) := by
  rw [readRange_eq] at h ⊢
  obtain ⟨⟨first, behind⟩, hfirst, hrange⟩ := Option.bind_eq_some_iff.mp h
  cases behind with
  | nil =>
    unfold rangeFrom at hrange
    rw [skipBlanks_nil] at hrange
    cases hrange
  | cons b behind =>
    rw [goesOn_readMember.of_cons hfirst]
    exact rangeFrom_append hrange

/-! ## Whole classes -/

namespace BracketStep

def append : BracketStep → BracketStep
  | ended part rest => ended part (rest ++ closing)
  | .open level outer rest => .open level outer (rest ++ closing)

/-- The class has ended, or there is something left to read. -/
def isFollowed : BracketStep → Prop
  | ended _ _ => True
  | .open _ _ rest => rest ≠ []

end BracketStep

theorem stepBracket_nil (level : Bracket) (outer : List Bracket) :
    stepBracket f level outer [] = none := by
  unfold stepBracket
  rw [skipBlanks_nil]

section

variable {level : Bracket} {outer : List Bracket} {s : BracketStep}

/-- An opening bracket begins a named class or a class of its own. -/
def stepOpen (f : Flags) (level : Bracket) (outer : List Bracket) (cs : List Char) :
    Option BracketStep :=
  match readAsciiClass f cs with
  | some (part, rest) => part.map fun part => .open (level.push part) outer rest
  | none =>
    let (inner, rest) := openBracket f.extended cs
    some (.open inner (level :: outer) rest)

theorem stepOpen_append (h : stepOpen f level outer cs = some s) (hs : s.isFollowed) :
    stepOpen f level outer (cs ++ closing) = some s.append := by
  unfold stepOpen at h ⊢
  rw [readAsciiClass_append]
  cases hclass : readAsciiClass f cs with
  | some read =>
    rw [hclass] at h
    obtain ⟨part, hpart, rfl⟩ := Option.map_eq_some_iff.mp h
    simp [hpart, BracketStep.append]
  | none =>
    rw [hclass] at h
    cases hopen : openBracket f.extended cs with
    | mk inner behind =>
      rw [hopen] at h
      obtain rfl := Option.some.inj h
      obtain ⟨b, behind, rfl⟩ := List.exists_cons_of_ne_nil hs
      simp only [Option.map_none, openBracket_append hopen]
      rfl

/-- Other marks than two equal ones and brackets begin a range. -/
def stepRange (f : Flags) (level : Bracket) (outer : List Bracket) (cs : List Char) :
    Option BracketStep :=
  (readRange f cs).map fun (part, rest) => .open (level.push part) outer rest

theorem stepRange_append (h : stepRange f level outer cs = some s) (hs : s.isFollowed) :
    stepRange f level outer (cs ++ closing) = some s.append ∧ ∀ c, cs ≠ [c] := by
  obtain ⟨⟨part, rest⟩, hrange, rfl⟩ := Option.map_eq_some_iff.mp h
  obtain ⟨b, rest, rfl⟩ := List.exists_cons_of_ne_nil hs
  constructor
  · rw [stepRange, readRange_append hrange]
    rfl
  · rintro c rfl
    rw [readRange_singleton] at hrange
    cases hrange

theorem stepBracket_append (h : stepBracket f level outer cs = some s) (hs : s.isFollowed) :
    stepBracket f level outer (cs ++ closing) = some s.append := by
  unfold stepBracket at h ⊢
  cases hskip : skipBlanks f.extended cs with
  | nil =>
    rw [hskip] at h
    cases h
  | cons c more =>
    rw [hskip] at h
    rw [skipBlanks_append hskip]
    split at h
    · next heq => cases heq
    · next heq =>
      obtain ⟨rfl, rfl⟩ := List.cons.inj heq
      exact stepOpen_append h hs
    · next heq =>
      obtain ⟨rfl, rfl⟩ := List.cons.inj heq
      obtain ⟨part, hpart, h⟩ := Option.bind_eq_some_iff.mp h
      simp only [List.cons_append, hpart]
      cases outer with
      | nil =>
        obtain rfl := Option.some.inj h
        rfl
      | cons up outer =>
        obtain rfl := Option.some.inj h
        rfl
    · next heq =>
      rw [heq]
      obtain rfl := Option.some.inj h
      rfl
    · next heq =>
      rw [heq]
      obtain rfl := Option.some.inj h
      rfl
    · next heq =>
      rw [heq]
      obtain rfl := Option.some.inj h
      rfl
    · next h₁ h₂ h₃ h₄ h₅ h₆ =>
      obtain ⟨hread, hsingle⟩ := stepRange_append h hs
      -- what was read has two characters, so no mark of two characters arises at the end
      cases more with
      | nil => exact absurd rfl (hsingle c)
      | cons d more =>
        simp only [List.cons_append] at hread ⊢
        split
        · next heq => cases heq
        · next heq => exact absurd (by rw [(List.cons.inj heq).1]) (h₂ (d :: more))
        · next heq => exact absurd (by rw [(List.cons.inj heq).1]) (h₃ (d :: more))
        · next heq =>
          obtain ⟨rfl, hmore⟩ := List.cons.inj heq
          exact absurd (by rw [(List.cons.inj hmore).1]) (h₄ more)
        · next heq =>
          obtain ⟨rfl, hmore⟩ := List.cons.inj heq
          exact absurd (by rw [(List.cons.inj hmore).1]) (h₅ more)
        · next heq =>
          obtain ⟨rfl, hmore⟩ := List.cons.inj heq
          exact absurd (by rw [(List.cons.inj hmore).1]) (h₆ more)
        · exact hread

end

theorem readLevels_append {level : Bracket} {outer : List Bracket} {part : SetPart}
    (h : readLevels f level outer cs = some (part, rest)) :
    readLevels f level outer (cs ++ closing) = some (part, rest ++ closing) := by
  fun_induction readLevels f level outer cs with
  | case1 level outer cs hstep => cases h
  | case2 level outer cs part' rest' hstep =>
    obtain ⟨rfl, rfl⟩ := Prod.mk.inj (Option.some.inj h)
    rw [readLevels, stepBracket_append hstep trivial]
    rfl
  | case3 level outer cs level' outer' rest' hstep hlength ih =>
    have hrest : rest' ≠ [] := by
      rintro rfl
      rw [readLevels, stepBracket_nil] at h
      cases h
    rw [readLevels, stepBracket_append hstep hrest]
    have hlength' : (rest' ++ closing).length < (cs ++ closing).length := by
      rw [List.length_append, List.length_append]
      exact Nat.add_lt_add_right hlength _
    exact (if_pos hlength').trans (ih h)
  | case4 level outer cs level' outer' rest' hstep hlength => cases h

theorem readBracket_append {part : SetPart} (h : readBracket f cs = some (part, rest)) :
    readBracket f (cs ++ closing) = some (part, rest ++ closing) := by
  unfold readBracket at h ⊢
  cases hopen : openBracket f.extended cs with
  | mk level behind =>
    rw [hopen] at h
    cases behind with
    | nil =>
      have hnone : readLevels f level [] [] = none := by rw [readLevels, stepBracket_nil]
      cases hnone.symm.trans h
    | cons c behind =>
      rw [openBracket_append hopen]
      exact readLevels_append h

end Telemetry.Regex

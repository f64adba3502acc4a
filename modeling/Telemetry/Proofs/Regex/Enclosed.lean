import Telemetry.Proofs.Regex.Bracket
import Telemetry.Regex.Syntax

/-!
# Expressions within a group

An expression that can be read on its own is read in the same way within a group, and the group is
still open behind its last part (`readParts_within`). Only its closing parenthesis may be lost, to a
comment at the end of the expression. Then the group stays open, and the whole is no expression.

* `Reading.within`: a reading with one more group around all others.
-/

namespace Telemetry.Regex

open Unicode

variable {r r' : Reading} {g : Group} {cs rest : List Char} {c : Char} {extended : Bool}

namespace Reading

/-- The reading with a group around it. -/
def within (r : Reading) (g : Group) : Reading := { r with groups := r.groups ++ [g] }

@[simp] theorem within_flags : (r.within g).flags = r.flags := rfl

@[simp] theorem within_names : (r.within g).names = r.names := rfl

@[simp] theorem within_push (p : Piece) : (r.within g).push p = (r.push p).within g := rfl

@[simp] theorem within_bar : (r.within g).bar = r.bar.within g := rfl

@[simp] theorem within_enter (flags : Flags) (captures : Bool) :
    (r.within g).enter flags captures = (r.enter flags captures).within g := rfl

theorem within_leave (h : r.leave = some r') : (r.within g).leave = some (r'.within g) := by
  unfold leave at h ⊢
  cases hgroups : r.groups with
  | nil =>
    rw [hgroups] at h
    cases h
  | cons group groups =>
    rw [hgroups] at h
    obtain rfl := Option.some.inj h
    simp [within, hgroups, content]

@[simp] theorem within_repeatLast (least : Nat) (most : Option Nat) :
    (r.within g).repeatLast least most = (r.repeatLast least most).map (within · g) := by
  unfold repeatLast within
  cases r.pieces with
  | nil => rfl
  | cons p ps =>
    dsimp only
    split <;> rfl

@[simp] theorem within_atom (a : Atom) : (r.within g).atom a = (r.atom a).map (within · g) := by
  unfold atom
  rw [Option.map_map]
  rfl

end Reading

/-! ## The start of a group -/

theorem readNamedGroup_within :
    readNamedGroup (r.within g) cs =
      (readNamedGroup r cs).map fun read => (read.1.within g, read.2) := by
  unfold readNamedGroup
  cases readName cs with
  | none => rfl
  | some read =>
    simp only [Option.bind_eq_bind, Option.bind_some, Reading.within_names]
    by_cases htaken : r.names.contains (String.ofList read.1) = true
    · simp only [htaken, if_true, Option.map_none]
    · simp only [htaken]
      rfl

theorem readGroup_within :
    readGroup (r.within g) cs = (readGroup r cs).map fun read => (read.1.within g, read.2) := by
  unfold readGroup
  rw [Reading.within_flags]
  split
  · exact readNamedGroup_within
  · exact readNamedGroup_within
  · dsimp only
    split
    · rw [Option.map_map]
      rfl
    · split
      · rfl
      · rw [Option.map_map]
        rfl
    · rfl
  · rfl

theorem readName_append {name : List Char} (h : readName cs = some (name, rest)) :
    readName (cs ++ closing) = some (name, rest ++ closing) := by
  unfold readName at h ⊢
  cases hdrop : cs.dropWhile (· != '>') with
  | nil =>
    rw [hdrop] at h
    cases h
  | cons c behind =>
    rw [dropWhile_append_closing hdrop, takeWhile_append_closing hdrop]
    rw [hdrop] at h
    simp only [List.cons_append] at h ⊢
    split at h
    · next heq hname =>
      obtain ⟨rfl, rfl⟩ := List.cons.inj heq
      split at h
      · next hvalid =>
        obtain ⟨rfl, rfl⟩ := Prod.mk.inj (Option.some.inj h)
        rw [hname]
        exact if_pos hvalid
      · cases h
    · cases h

theorem readNamedGroup_append {read : Reading × List Char} (h : readNamedGroup r cs = some read) :
    readNamedGroup r (cs ++ closing) = some (read.1, read.2 ++ closing) := by
  unfold readNamedGroup at h ⊢
  obtain ⟨⟨name, rest⟩, hname, h⟩ := Option.bind_eq_some_iff.mp h
  rw [readName_append hname]
  simp only [Option.bind_eq_bind, Option.bind_some] at h ⊢
  split at h
  · cases h
  · next hfresh =>
    obtain rfl := Option.some.inj h
    rw [if_neg hfresh]

/-- Reads flags, for the rest of the group or for a group of their own. -/
def readFlags (r : Reading) (cs : List Char) : Option (Reading × List Char) :=
  let word := cs.takeWhile fun c => c != ':' && c != ')'
  match cs.dropWhile fun c => c != ':' && c != ')' with
  | ':' :: rest => (r.flags.change word).map fun flags => (r.enter flags false, rest)
  | _ :: rest =>
    if word.isEmpty then none
    else (r.flags.change word).map fun flags =>
      ({ r with flags }.push ⟨.empty, 0, 1, false⟩, rest)
  | [] => none

theorem readFlags_append {read : Reading × List Char} (h : readFlags r cs = some read) :
    readFlags r (cs ++ closing) = some (read.1, read.2 ++ closing) := by
  unfold readFlags at h ⊢
  cases hdrop : cs.dropWhile fun c => c != ':' && c != ')' with
  | nil =>
    rw [hdrop] at h
    cases h
  | cons c behind =>
    rw [dropWhile_append_closing hdrop, takeWhile_append_closing hdrop]
    rw [hdrop] at h
    simp only [List.cons_append] at h ⊢
    by_cases hcolon : c = ':'
    · subst hcolon
      obtain ⟨flags, hflags, rfl⟩ := Option.map_eq_some_iff.mp h
      simp only [hflags]
      rfl
    · simp only at h ⊢
      split at h
      · cases h
      · next hword =>
        rw [if_neg hword]
        obtain ⟨flags, hflags, rfl⟩ := Option.map_eq_some_iff.mp h
        rw [hflags]
        rfl

theorem readGroup_flags (h : skipBlanks r.flags.extended cs = '?' :: rest)
    (hangle : ∀ more, rest ≠ '<' :: more) (hpython : ∀ more, rest ≠ 'P' :: '<' :: more) :
    readGroup r cs = readFlags r rest := by
  unfold readGroup
  rw [h]
  split
  · next heq => exact absurd (List.cons.inj heq).2 (hpython _)
  · next heq => exact absurd (List.cons.inj heq).2 (hangle _)
  · next heq =>
    obtain ⟨-, rfl⟩ := List.cons.inj heq
    rfl
  · next hne => exact absurd rfl (hne rest)

theorem goesOn_readGroup : GoesOn (readGroup r) cs := by
  intro r' rest h
  cases hskip : skipBlanks r.flags.extended cs with
  | nil =>
    unfold readGroup at h ⊢
    rw [hskip] at h
    obtain ⟨rfl, rfl⟩ := Prod.mk.inj (Option.some.inj h)
    rcases skipBlanks_append_of_nil hskip with hclosing | hnil
    · rw [hclosing]
      exact .inl rfl
    · rw [hnil]
      exact .inr ⟨rfl, rfl⟩
  | cons c more =>
    have hskip' := skipBlanks_append hskip
    rw [List.cons_append] at hskip'
    left
    by_cases hmark : c = '?'
    · subst hmark
      by_cases hangle : ∃ name, more = '<' :: name
      · obtain ⟨name, rfl⟩ := hangle
        unfold readGroup at h ⊢
        rw [hskip] at h
        rw [hskip']
        exact readNamedGroup_append h
      · by_cases hpython : ∃ name, more = 'P' :: '<' :: name
        · obtain ⟨name, rfl⟩ := hpython
          unfold readGroup at h ⊢
          rw [hskip] at h
          rw [hskip']
          exact readNamedGroup_append h
        · rw [readGroup_flags hskip (not_exists.mp hangle) (not_exists.mp hpython)] at h
          rw [readGroup_flags hskip' (append_closing_ne (by decide) (not_exists.mp hangle))]
          · exact readFlags_append h
          · intro name heq
            cases more with
            | nil => exact absurd (List.cons.inj heq).1 (by decide)
            | cons d more =>
              obtain ⟨rfl, hname⟩ := List.cons.inj heq
              have hopen : ∀ rest, more ≠ '<' :: rest :=
                fun rest hrest => hpython ⟨rest, congrArg _ hrest⟩
              exact append_closing_ne (by decide) hopen name hname
    · have hplain : ∀ {cs more}, skipBlanks r.flags.extended cs = c :: more →
          readGroup r cs = some (r.enter r.flags true, c :: more) := by
        intro cs more hskip
        unfold readGroup
        rw [hskip]
        split
        · next heq => exact absurd (List.cons.inj heq).1 hmark
        · next heq => exact absurd (List.cons.inj heq).1 hmark
        · next heq => exact absurd (List.cons.inj heq).1 hmark
        · rfl
      rw [hplain hskip] at h
      obtain ⟨rfl, rfl⟩ := Prod.mk.inj (Option.some.inj h)
      exact hplain hskip'

/-! ## Parts -/

theorem dropLazy_append : dropLazy (cs ++ closing) = dropLazy cs ++ closing := by
  by_cases hlazy : ∃ rest, cs = '?' :: rest
  · obtain ⟨rest, rfl⟩ := hlazy
    rfl
  · have hnone : ∀ {cs}, (∀ rest, cs ≠ '?' :: rest) → dropLazy cs = cs := by
      intro cs hcs
      unfold dropLazy
      split
      · next heq => exact absurd rfl (hcs _)
      · rfl
    rw [hnone (not_exists.mp hlazy),
      hnone (append_closing_ne (by decide) (not_exists.mp hlazy))]

theorem step_within (h : step r cs = some (r', rest)) :
    step (r.within g) cs = some (r'.within g, rest) := by
  unfold step at h
  split at h
  case h_1 => cases h
  case h_2 =>
    rw [step, readGroup_within, h]
    rfl
  case h_3 =>
    obtain ⟨r₁, hleave, hpair⟩ := Option.map_eq_some_iff.mp h
    obtain ⟨rfl, rfl⟩ := Prod.mk.inj hpair
    rw [step, Reading.within_leave hleave]
    rfl
  case h_4 =>
    obtain ⟨rfl, rfl⟩ := Prod.mk.inj (Option.some.inj h)
    rfl
  case h_5 =>
    obtain ⟨⟨part, behind⟩, hread, hpair⟩ := Option.map_eq_some_iff.mp h
    obtain ⟨rfl, rfl⟩ := Prod.mk.inj hpair
    rw [step, Reading.within_flags, hread]
    rfl
  case h_6 | h_7 | h_8 =>
    obtain ⟨r₁, hrepeat, hpair⟩ := Option.map_eq_some_iff.mp h
    obtain ⟨rfl, rfl⟩ := Prod.mk.inj hpair
    rw [step, Reading.within_repeatLast, hrepeat]
    rfl
  case h_9 =>
    obtain ⟨⟨⟨least, most⟩, behind⟩, hcounts, h⟩ := Option.bind_eq_some_iff.mp h
    obtain ⟨r₁, hrepeat, hpair⟩ := Option.bind_eq_some_iff.mp h
    obtain ⟨rfl, rfl⟩ := Prod.mk.inj (Option.some.inj hpair)
    rw [step, Reading.within_flags, hcounts]
    simp only [Option.bind_eq_bind, Option.bind_some, Reading.within_repeatLast, hrepeat]
    rfl
  case h_10 =>
    obtain ⟨⟨a, behind⟩, hread, h⟩ := Option.bind_eq_some_iff.mp h
    obtain ⟨r₁, hatom, hpair⟩ := Option.bind_eq_some_iff.mp h
    obtain ⟨rfl, rfl⟩ := Prod.mk.inj (Option.some.inj hpair)
    rw [step, Reading.within_flags, hread]
    simp only [Option.bind_eq_bind, Option.bind_some, Reading.within_atom, hatom]
    rfl
  case h_11 | h_12 | h_13 | h_14 =>
    obtain ⟨r₁, hatom, hpair⟩ := Option.map_eq_some_iff.mp h
    obtain ⟨rfl, rfl⟩ := Prod.mk.inj hpair
    rw [step, Reading.within_atom, hatom]
    · rfl
    all_goals assumption

theorem goesOn_step : GoesOn (step r) cs := by
  intro r' rest h
  unfold step at h
  split at h
  case h_1 => cases h
  case h_2 => exact goesOn_readGroup r' rest h
  case h_3 =>
    obtain ⟨r₁, hleave, hpair⟩ := Option.map_eq_some_iff.mp h
    obtain ⟨rfl, rfl⟩ := Prod.mk.inj hpair
    left
    rw [List.cons_append, step, hleave]
    rfl
  case h_4 =>
    obtain ⟨rfl, rfl⟩ := Prod.mk.inj (Option.some.inj h)
    exact .inl rfl
  case h_5 =>
    obtain ⟨⟨part, behind⟩, hread, hpair⟩ := Option.map_eq_some_iff.mp h
    obtain ⟨rfl, rfl⟩ := Prod.mk.inj hpair
    left
    rw [List.cons_append, step, readBracket_append hread]
    rfl
  case h_6 | h_7 | h_8 =>
    obtain ⟨r₁, hrepeat, hpair⟩ := Option.map_eq_some_iff.mp h
    obtain ⟨rfl, rfl⟩ := Prod.mk.inj hpair
    left
    rw [List.cons_append, step, hrepeat, dropLazy_append]
    rfl
  case h_9 =>
    obtain ⟨⟨⟨least, most⟩, behind⟩, hcounts, h⟩ := Option.bind_eq_some_iff.mp h
    obtain ⟨r₁, hrepeat, hpair⟩ := Option.bind_eq_some_iff.mp h
    obtain ⟨rfl, rfl⟩ := Prod.mk.inj (Option.some.inj hpair)
    rw [List.cons_append, step, readCounts_append hcounts]
    simp only [Option.bind_eq_bind, Option.bind_some, hrepeat]
    cases hskip : skipBlanks r.flags.extended behind with
    | nil =>
      rcases skipBlanks_append_of_nil hskip with hclosing | hnil
      · rw [hclosing]
        exact .inl rfl
      · rw [hnil]
        exact .inr ⟨rfl, rfl⟩
    | cons d more =>
      left
      have hlazy : dropLazy (d :: more ++ closing) = dropLazy (d :: more) ++ closing :=
        dropLazy_append
      rw [skipBlanks_append hskip]
      exact congrArg (fun rest => some (r₁, rest)) hlazy
  case h_10 =>
    obtain ⟨⟨a, behind⟩, hread, h⟩ := Option.bind_eq_some_iff.mp h
    obtain ⟨r₁, hatom, hpair⟩ := Option.bind_eq_some_iff.mp h
    obtain ⟨rfl, rfl⟩ := Prod.mk.inj (Option.some.inj hpair)
    rw [List.cons_append, step]
    refine (goesOn_readEscape a behind hread).imp ?_ ?_
    · intro hread'
      rw [hread']
      simp only [Option.bind_eq_bind, Option.bind_some, hatom]
      rfl
    · rintro ⟨rfl, hread'⟩
      rw [hread']
      simp only [Option.bind_eq_bind, Option.bind_some, hatom]
      exact ⟨trivial, rfl⟩
  case h_11 | h_12 | h_13 | h_14 =>
    obtain ⟨r₁, hatom, hpair⟩ := Option.map_eq_some_iff.mp h
    obtain ⟨rfl, rfl⟩ := Prod.mk.inj hpair
    left
    rw [List.cons_append, step, hatom]
    · rfl
    all_goals assumption

theorem readParts_of_cons {behind : List Char} (hskip : skipBlanks r.flags.extended cs = c :: rest)
    (hstep : step r (c :: rest) = some (r', behind)) (hlength : behind.length < cs.length) :
    readParts r cs = readParts r' behind := by
  rw [readParts, hskip]
  simp only [hstep]
  exact if_pos hlength

theorem readParts_of_nil (h : skipBlanks r.flags.extended cs = []) : readParts r cs = some r := by
  rw [readParts, h]

theorem skipComments_length_le (inComment : Bool) (cs : List Char) :
    (skipComments inComment cs).length ≤ cs.length := by
  fun_induction skipComments inComment cs with
  | case1 => exact Nat.le_refl _
  | case2 c cs ih => exact Nat.le_succ_of_le ih
  | case3 c cs hblank ih => exact Nat.le_succ_of_le ih
  | case4 cs hblank ih => exact Nat.le_succ_of_le ih
  | case5 c cs hblank hmark => exact Nat.le_refl _

theorem skipBlanks_closing : skipBlanks extended closing = closing := by
  cases extended <;> decide

theorem readParts_closing (h : skipBlanks r.flags.extended cs = closing) :
    readParts r cs = r.leave.bind fun r' => readParts r' ['$'] := by
  have hlength : ['$'].length < cs.length := by
    cases hextended : r.flags.extended with
    | false =>
      rw [hextended] at h
      obtain rfl : cs = closing := h
      decide
    | true =>
      rw [hextended] at h
      have hle := skipComments_length_le false cs
      rw [show skipComments false cs = closing from h] at hle
      exact hle
  cases hleave : r.leave with
  | none =>
    rw [readParts, h]
    simp only [closing, step, hleave]
    rfl
  | some r' => exact readParts_of_cons h (by rw [step, hleave]; rfl) hlength

theorem readParts_within (g : Group) (h : readParts r cs = some r') :
    readParts (r.within g) (cs ++ closing) = readParts (r'.within g) closing ∨
      readParts (r.within g) (cs ++ closing) = some (r'.within g) := by
  fun_induction readParts r cs with
  | case1 r cs hskip =>
    obtain rfl := Option.some.inj h
    rcases skipBlanks_append_of_nil hskip with hclosing | hnil
    · left
      rw [readParts_closing (r := r.within g) hclosing, readParts_closing skipBlanks_closing]
    · exact .inr (readParts_of_nil hnil)
  | case2 r cs c rest hskip hstep => cases h
  | case3 r cs c rest hskip r₁ behind hstep hlength ih =>
    have hskip' : skipBlanks (r.within g).flags.extended (cs ++ closing) =
        c :: (rest ++ closing) := skipBlanks_append hskip
    rcases goesOn_step r₁ behind hstep with hstep' | ⟨rfl, hstep'⟩
    · have hlength' : (behind ++ closing).length < (cs ++ closing).length := by
        simpa using hlength
      rw [readParts_of_cons hskip' (step_within hstep') hlength']
      exact ih h
    · right
      have hlength' : ([] : List Char).length < (cs ++ closing).length := by
        rw [List.length_append]
        exact Nat.lt_add_left _ (Nat.zero_lt_succ 1)
      obtain rfl := Option.some.inj ((readParts_of_nil skipBlanks_nil).symm.trans h)
      rw [readParts_of_cons hskip' (step_within hstep') hlength']
      exact readParts_of_nil skipBlanks_nil
  | case4 r cs c rest hskip r₁ behind hstep hlength => cases h

end Telemetry.Regex

import Mathlib.Data.List.Basic
import Telemetry.Regex.Syntax

/-!
# Readers within a group

What can be read on its own is read in the same way where a group ends behind it: no reader asks for
what is behind the part that it reads, so each part ends where it ended. The one thing that may
happen to the end of the group is that a comment takes it in.

* `closing`: what stands behind the text.
* `GoesOn`: a reader that reads the same part of the longer text.
-/

namespace Telemetry.Regex

open Unicode

/-- The end of the group and of the text. -/
def closing : List Char := [')', '$']

/-- What is read of a text is read of the longer one too. The rest may be taken in by a comment that
the text ends with. -/
def GoesOn {α : Type} (read : List Char → Option (α × List Char)) (cs : List Char) : Prop :=
  ∀ x rest, read cs = some (x, rest) →
    read (cs ++ closing) = some (x, rest ++ closing) ∨
      rest = [] ∧ read (cs ++ closing) = some (x, [])

variable {extended : Bool} {cs rest : List Char} {c : Char} {f : Flags}

theorem append_closing_ne (hc : c ≠ ')') (h : ∀ rest, cs ≠ c :: rest) (rest : List Char) :
    cs ++ closing ≠ c :: rest := by
  intro heq
  cases cs with
  | nil => exact hc (List.cons.inj heq).1.symm
  | cons d cs =>
    obtain ⟨rfl, -⟩ := List.cons.inj heq
    exact h cs rfl

theorem GoesOn.of_cons {α : Type} {read : List Char → Option (α × List Char)} {x : α}
    (h : GoesOn read cs) (hread : read cs = some (x, c :: rest)) :
    read (cs ++ closing) = some (x, c :: rest ++ closing) :=
  (h x (c :: rest) hread).resolve_right fun hnil => List.cons_ne_nil _ _ hnil.1

theorem GoesOn.of_append {α : Type} {read : List Char → Option (α × List Char)}
    (h : ∀ x rest, read cs = some (x, rest) → read (cs ++ closing) = some (x, rest ++ closing)) :
    GoesOn read cs := fun x rest hread => .inl (h x rest hread)

/-! ## Passing over blanks and comments -/

/-- Either a character is met that is neither blank nor begins a comment, or the text is passed over
as a whole, and what follows it is too as far as a comment takes it in. -/
def Passing (inComment : Bool) (cs : List Char) : Prop :=
  (∃ c rest, skipComments inComment cs = c :: rest ∧ (c ∈ cs ∧ isBlank c = false ∧ c ≠ '#') ∧
    ∀ more, skipComments inComment (cs ++ more) = c :: (rest ++ more)) ∨
  skipComments inComment cs = [] ∧
    ∃ inComment', ∀ more, skipComments inComment (cs ++ more) = skipComments inComment' more

theorem Passing.cons {inComment next : Bool} {a : Char} (h : Passing next cs)
    (hstep : ∀ more, skipComments inComment (a :: (cs ++ more)) = skipComments next (cs ++ more)) :
    Passing inComment (a :: cs) := by
  have hnone := hstep []
  rw [List.append_nil] at hnone
  unfold Passing
  simp only [List.cons_append, hstep, hnone]
  refine h.imp_left ?_
  rintro ⟨c, rest, hskip, hc, hmore⟩
  exact ⟨c, rest, hskip, hc.imp_left (List.mem_cons_of_mem a), hmore⟩

theorem passing (inComment : Bool) (cs : List Char) : Passing inComment cs := by
  induction cs generalizing inComment with
  | nil =>
    refine .inr ⟨?_, inComment, fun more => rfl⟩
    cases inComment <;> rfl
  | cons a cs ih =>
    cases inComment with
    | true => exact (ih (a != '\n')).cons fun more => by rw [skipComments]
    | false =>
      by_cases hblank : isBlank a = true
      · exact (ih false).cons fun more => by rw [skipComments, if_pos hblank]
      · by_cases hmark : a = '#'
        · exact (ih true).cons fun more => by rw [skipComments, if_neg hblank, if_pos hmark]
        · have hstop : ∀ more, skipComments false (a :: more) = a :: more := fun more => by
            rw [skipComments, if_neg hblank, if_neg hmark]
          exact .inl ⟨a, cs, hstop cs, ⟨List.mem_cons_self, Bool.eq_false_iff.mpr hblank, hmark⟩,
            fun more => hstop (cs ++ more)⟩

theorem skipBlanks_nil : skipBlanks extended [] = [] := by cases extended <;> rfl

theorem skipBlanks_append (h : skipBlanks extended cs = c :: rest) :
    skipBlanks extended (cs ++ closing) = c :: rest ++ closing := by
  cases extended with
  | false => exact congrArg (· ++ closing) h
  | true =>
    rcases passing false cs with ⟨c', rest', hskip, -, hmore⟩ | ⟨hnil, -⟩
    · have hsame : c' :: rest' = c :: rest := hskip.symm.trans h
      rw [← hsame]
      exact hmore closing
    · exact absurd (hnil.symm.trans h) (List.cons_ne_nil c rest).symm

theorem skipBlanks_append_of_nil (h : skipBlanks extended cs = []) :
    skipBlanks extended (cs ++ closing) = closing ∨ skipBlanks extended (cs ++ closing) = [] := by
  cases extended with
  | false => exact .inl (congrArg (· ++ closing) h)
  | true =>
    rcases passing false cs with ⟨c', rest', hskip, -⟩ | ⟨-, inComment, hmore⟩
    · exact absurd (hskip.symm.trans h) (List.cons_ne_nil c' rest')
    · have hclosing : skipBlanks true (cs ++ closing) = skipComments inComment closing :=
        hmore closing
      rw [hclosing]
      cases inComment with
      | false => exact .inl (by decide)
      | true => exact .inr (by decide)

theorem collect_append {stop : Char → Bool} {taken : List Char}
    (h : collect extended stop cs = (taken, c :: rest)) :
    collect extended stop (cs ++ closing) = (taken, c :: rest ++ closing) := by
  have hfrom : ∀ inComment taken, collectFrom extended stop inComment cs = (taken, c :: rest) →
      collectFrom extended stop inComment (cs ++ closing) = (taken, c :: rest ++ closing) := by
    clear h
    induction cs with
    | nil =>
      intro inComment taken h
      cases inComment <;> simp [collectFrom] at h
    | cons a cs ih =>
      intro inComment taken h
      rw [List.cons_append]
      cases inComment with
      | true =>
        rw [collectFrom] at h ⊢
        exact ih _ _ h
      | false =>
        rw [collectFrom] at h ⊢
        split at h
        · next hblank =>
          rw [if_pos hblank]
          exact ih _ _ h
        · next hblank =>
          rw [if_neg hblank]
          split at h
          · next hmark =>
            rw [if_pos hmark]
            exact ih _ _ h
          · next hmark =>
            rw [if_neg hmark]
            split at h
            · next hstop =>
              obtain ⟨rfl, hcs⟩ := Prod.mk.inj h
              obtain ⟨rfl, rfl⟩ := List.cons.inj hcs
              rw [if_pos hstop]
              rfl
            · next hstop =>
              obtain ⟨rfl, hrest⟩ := Prod.mk.inj h
              rw [if_neg hstop, ih false _ (Prod.ext rfl hrest)]
  exact hfrom false taken h

/-! ## Escapes -/

theorem goesOn_readHexDigits (count : Nat) : GoesOn (readHexDigits extended count) cs := by
  intro digits rest h
  induction count generalizing cs digits with
  | zero =>
    obtain ⟨rfl, rfl⟩ := Prod.mk.inj (Option.some.inj h)
    exact .inl rfl
  | succ count ih =>
    cases cs with
    | nil => cases h
    | cons c cs =>
      rw [List.cons_append]
      rw [readHexDigits] at h ⊢
      by_cases hdigit : isHexDigit c = true
      · rw [if_pos hdigit] at h ⊢
        obtain ⟨⟨digits', rest'⟩, hread, hpair⟩ := Option.map_eq_some_iff.mp h
        obtain ⟨rfl, rfl⟩ := Prod.mk.inj hpair
        cases hskip : skipBlanks extended cs with
        | cons d more =>
          rw [skipBlanks_append hskip, ← hskip]
          rcases ih _ hread with hmore | ⟨hnil, hmore⟩
          · exact .inl (by rw [hmore]; rfl)
          · exact .inr ⟨hnil, by rw [hmore]; rfl⟩
        | nil =>
          rw [hskip] at hread
          cases count with
          | succ count => cases hread
          | zero =>
            obtain ⟨rfl, rfl⟩ := Prod.mk.inj (Option.some.inj hread)
            rcases skipBlanks_append_of_nil hskip with hclosing | hclosing
            · exact .inl (by rw [hclosing]; rfl)
            · exact .inr ⟨rfl, by rw [hclosing]; rfl⟩
      · rw [if_neg hdigit] at h
        cases h

/-- What is made of the characters before a closing brace. -/
def closedBy {α : Type} (read : List Char → Option α) (collected : List Char × List Char) :
    Option (α × List Char) :=
  match collected.2 with
  | '}' :: rest => (read collected.1).map (·, rest)
  | _ => none

section

variable {α : Type} {read : List Char → Option α} {inner : List Char} {x : α}

theorem closedBy_brace : closedBy read (inner, '}' :: rest) = (read inner).map (·, rest) := rfl

theorem closedBy_of_ne (h : ∀ rest', rest ≠ '}' :: rest') : closedBy read (inner, rest) = none := by
  unfold closedBy
  split
  · next heq => exact absurd heq (h _)
  · rfl

theorem closedBy_append {stop : Char → Bool}
    (h : closedBy read (collect extended stop cs) = some (x, rest)) :
    closedBy read (collect extended stop (cs ++ closing)) = some (x, rest ++ closing) := by
  cases hcollect : collect extended stop cs with
  | mk inner behind =>
    rw [hcollect] at h
    by_cases hbrace : ∃ rest', behind = '}' :: rest'
    · obtain ⟨rest', rfl⟩ := hbrace
      obtain ⟨y, hread, hpair⟩ := Option.map_eq_some_iff.mp h
      obtain ⟨rfl, rfl⟩ := Prod.mk.inj hpair
      rw [collect_append hcollect, List.cons_append, closedBy_brace, hread]
      rfl
    · rw [closedBy_of_ne (not_exists.mp hbrace)] at h
      cases h

end

theorem readHex_brace {count : Nat} (h : skipBlanks extended cs = '{' :: rest) :
    readHex extended count cs = closedBy
      (fun digits => if digits ≠ [] ∧ digits.all isHexDigit then
        (charOfHex digits).map (.char · false) else none) (collect extended (· == '}') rest) := by
  simp only [readHex, h]
  obtain ⟨digits, behind⟩ := collect extended (· == '}') rest
  by_cases hbrace : ∃ rest', behind = '}' :: rest'
  · obtain ⟨rest', rfl⟩ := hbrace
    rw [closedBy_brace]
    cases digits with
    | nil => rfl
    | cons d digits =>
      by_cases hdigits : (d :: digits).all isHexDigit = true
      · rw [if_pos ⟨List.cons_ne_nil d digits, hdigits⟩, Option.map_map]
        exact if_pos hdigits
      · rw [if_neg fun hboth => hdigits hboth.2]
        exact if_neg hdigits
  · rw [closedBy_of_ne (not_exists.mp hbrace)]
    split
    · rfl
    · next heq => exact absurd ⟨_, (Prod.mk.inj heq).2⟩ hbrace
    · rfl

theorem readHex_digits {count : Nat} (h : skipBlanks extended cs = c :: rest) (hc : c ≠ '{') :
    readHex extended count cs = (readHexDigits extended count (c :: rest)).bind fun read =>
      (charOfHex read.1).map fun ch => (.char ch (count == 2), read.2) := by
  unfold readHex
  rw [h]
  split
  · next heq => exact absurd (List.cons.inj heq).1 hc
  · cases readHexDigits extended count (c :: rest) with
    | none => rfl
    | some read =>
      cases hch : charOfHex read.1 with
      | none => simp [hch]
      | some ch => simp [hch]

theorem goesOn_readHex (count : Nat) : GoesOn (readHex extended (count + 1)) cs := by
  intro a rest h
  cases hskip : skipBlanks extended cs with
  | nil =>
    unfold readHex at h
    rw [hskip] at h
    cases h
  | cons c more =>
    have hskip' := skipBlanks_append hskip
    rw [List.cons_append] at hskip'
    by_cases hbrace : c = '{'
    · subst hbrace
      rw [readHex_brace hskip] at h
      rw [readHex_brace hskip']
      exact .inl (closedBy_append h)
    · rw [readHex_digits hskip hbrace] at h
      rw [readHex_digits hskip' hbrace]
      obtain ⟨⟨digits, rest'⟩, hdigits, hrest⟩ := Option.bind_eq_some_iff.mp h
      obtain ⟨ch, hch, hpair⟩ := Option.map_eq_some_iff.mp hrest
      obtain ⟨rfl, rfl⟩ := Prod.mk.inj hpair
      rcases goesOn_readHexDigits (count + 1) digits rest' hdigits with hmore | ⟨hnil, hmore⟩
      · left
        rw [← List.cons_append, hmore, Option.bind_some, hch]
        rfl
      · right
        rw [← List.cons_append, hmore, Option.bind_some, hch]
        exact ⟨hnil, rfl⟩

theorem readProperty_brace {negated : Bool} (h : skipBlanks extended cs = '{' :: rest) :
    readProperty extended negated cs = closedBy (fun query => (querySet query).map (.property · negated))
      (collect extended (· == '}') rest) := by
  simp only [readProperty, h]
  obtain ⟨query, behind⟩ := collect extended (· == '}') rest
  by_cases hbrace : ∃ rest', behind = '}' :: rest'
  · obtain ⟨rest', rfl⟩ := hbrace
    rw [closedBy_brace, Option.map_map]
    rfl
  · rw [closedBy_of_ne (not_exists.mp hbrace)]
    split
    · next heq => exact absurd ⟨_, (Prod.mk.inj heq).2⟩ hbrace
    · rfl

theorem goesOn_readProperty (negated : Bool) : GoesOn (readProperty extended negated) cs := by
  refine GoesOn.of_append fun a rest h => ?_
  cases hskip : skipBlanks extended cs with
  | nil =>
    unfold readProperty at h
    rw [hskip] at h
    cases h
  | cons c more =>
    have hskip' := skipBlanks_append hskip
    rw [List.cons_append] at hskip'
    by_cases hbrace : c = '{'
    · subst hbrace
      rw [readProperty_brace hskip] at h
      rw [readProperty_brace hskip']
      exact closedBy_append h
    · have hletter : ∀ {cs rest}, skipBlanks extended cs = c :: rest →
          readProperty extended negated cs =
            if c = '\\' then none else (propertySet [c]).map fun s => (.property s negated, rest) := by
        intro cs rest hskip
        unfold readProperty
        rw [hskip]
        split
        · next heq => exact absurd (List.cons.inj heq).1 hbrace
        · next heq =>
          obtain ⟨rfl, rfl⟩ := List.cons.inj heq
          rfl
        · next heq => cases heq
      rw [hletter hskip] at h
      rw [hletter hskip']
      split at h
      · cases h
      · next hc =>
        obtain ⟨s, hs, hpair⟩ := Option.map_eq_some_iff.mp h
        obtain ⟨rfl, rfl⟩ := Prod.mk.inj hpair
        rw [if_neg hc, hs]
        rfl

/-- The word edge that is named between braces. -/
def namedEdge (name : List Char) : Option Atom :=
  match String.ofList name with
  | "start" => some (.edge .start)
  | "end" => some (.edge .finish)
  | "start-half" => some (.edge .startHalf)
  | "end-half" => some (.edge .finishHalf)
  | _ => none

theorem readEdge_brace {inner : List Char} (h : skipBlanks extended inner = c :: rest) :
    readEdge extended ('{' :: inner) =
      if isEdgeLetter c then closedBy namedEdge (collect extended (!isEdgeLetter ·) inner)
      else some (.edge .boundary, '{' :: inner) := by
  simp only [readEdge, h]
  split
  · obtain ⟨name, behind⟩ := collect extended (!isEdgeLetter ·) inner
    by_cases hbrace : ∃ rest', behind = '}' :: rest'
    · obtain ⟨rest', rfl⟩ := hbrace
      simp only [closedBy_brace, namedEdge]
      split <;> simp [*]
    · rw [closedBy_of_ne (not_exists.mp hbrace)]
      split
      · next heq => exact absurd ⟨_, (Prod.mk.inj heq).2⟩ hbrace
      · rfl
  · rfl

theorem goesOn_readEdge : GoesOn (readEdge extended) cs := by
  refine GoesOn.of_append fun a rest h => ?_
  by_cases hbrace : ∃ inner, cs = '{' :: inner
  · obtain ⟨inner, rfl⟩ := hbrace
    rw [List.cons_append]
    cases hskip : skipBlanks extended inner with
    | nil =>
      simp only [readEdge, hskip] at h
      cases h
    | cons c more =>
      rw [readEdge_brace hskip] at h
      rw [readEdge_brace (skipBlanks_append hskip)]
      split at h
      · next hletter =>
        rw [if_pos hletter]
        exact closedBy_append h
      · next hletter =>
        obtain ⟨rfl, rfl⟩ := Prod.mk.inj (Option.some.inj h)
        rw [if_neg hletter]
        rfl
  · have hedge : ∀ {cs}, (∀ inner, cs ≠ '{' :: inner) →
        readEdge extended cs = some (.edge .boundary, cs) := by
      intro cs hcs
      unfold readEdge
      split
      · next heq => exact absurd rfl (hcs _)
      · rfl
    rw [hedge (not_exists.mp hbrace)] at h
    obtain ⟨rfl, rfl⟩ := Prod.mk.inj (Option.some.inj h)
    exact hedge (append_closing_ne (by decide) (not_exists.mp hbrace))

theorem goesOn_readEscape : GoesOn (readEscape extended) cs := by
  intro a rest h
  cases cs with
  | nil => cases h
  | cons c cs =>
    rw [List.cons_append]
    unfold readEscape at h ⊢
    dsimp only at h ⊢
    by_cases hself : isEscapable c = true
    · rw [if_pos hself] at h ⊢
      obtain ⟨rfl, rfl⟩ := Prod.mk.inj (Option.some.inj h)
      exact .inl rfl
    · rw [if_neg hself] at h ⊢
      split at h
      case h_1 => exact goesOn_readHex 1 a rest h
      case h_2 => exact goesOn_readHex 3 a rest h
      case h_3 => exact goesOn_readHex 7 a rest h
      case h_4 => exact goesOn_readProperty false a rest h
      case h_5 => exact goesOn_readProperty true a rest h
      case h_20 => exact goesOn_readEdge a rest h
      case h_24 => cases h
      all_goals
        obtain ⟨rfl, rfl⟩ := Prod.mk.inj (Option.some.inj h)
        exact .inl rfl

/-! ## Counts -/

theorem dropWhile_append_closing {p : Char → Bool} (h : cs.dropWhile p = c :: rest) :
    (cs ++ closing).dropWhile p = c :: rest ++ closing := by
  rw [List.dropWhile_append, h]
  rfl

theorem takeWhile_append_closing {p : Char → Bool} (h : cs.dropWhile p = c :: rest) :
    (cs ++ closing).takeWhile p = cs.takeWhile p := by
  have hcs := List.takeWhile_append_dropWhile (p := p) (l := cs)
  rw [List.takeWhile_append, if_neg]
  intro hlength
  have hsum := congrArg List.length hcs
  rw [List.length_append, h, hlength, List.length_cons] at hsum
  omega

theorem readCount_append {n : Nat} (h : readCount extended cs = some (n, c :: rest)) :
    readCount extended (cs ++ closing) = some (n, c :: rest ++ closing) := by
  unfold readCount at h ⊢
  cases hskip : skipBlanks extended cs with
  | nil =>
    rw [hskip] at h
    cases h
  | cons d more =>
    rw [hskip] at h
    rw [skipBlanks_append hskip]
    cases hdrop : (d :: more).dropWhile isBlank with
    | nil =>
      rw [hdrop] at h
      cases h
    | cons e more' =>
      rw [hdrop] at h
      rw [dropWhile_append_closing hdrop]
      cases hcollect : collect extended (!·.isDigit) (e :: more') with
      | mk digits behind =>
        rw [hcollect] at h
        dsimp only at h
        split at h
        · cases h
        · next hvalid =>
          obtain ⟨rfl, hbehind⟩ := Prod.mk.inj (Option.some.inj h)
          cases behind with
          | nil => cases hbehind
          | cons b behind =>
            rw [collect_append hcollect]
            dsimp only
            rw [if_neg hvalid, dropWhile_append_closing hbehind]

/-- The bounds that end with an upper one. -/
def boundedBy (least : Nat) (read : Nat × List Char) :
    Option ((Nat × Option Nat) × List Char) :=
  match read.2 with
  | '}' :: rest => if least ≤ read.1 then some ((least, some read.1), rest) else none
  | _ => none

/-- The bounds that begin with a lower one. -/
def boundedFrom (extended : Bool) (read : Nat × List Char) :
    Option ((Nat × Option Nat) × List Char) :=
  match read.2 with
  | '}' :: rest => some ((read.1, some read.1), rest)
  | ',' :: rest =>
    match skipBlanks extended rest with
    | '}' :: rest => some ((read.1, none), rest)
    | rest => (readCount extended rest).bind (boundedBy read.1)
  | _ => none

theorem readCounts_eq :
    readCounts extended cs = (readCount extended cs).bind (boundedFrom extended) := rfl

theorem boundedBy_append {least : Nat} {read : Nat × List Char} {counts : Nat × Option Nat}
    (h : boundedBy least read = some (counts, rest)) :
    boundedBy least (read.1, read.2 ++ closing) = some (counts, rest ++ closing) := by
  obtain ⟨most, behind⟩ := read
  unfold boundedBy at h
  split at h
  · next hbehind =>
    subst hbehind
    split at h
    · next hle =>
      obtain ⟨rfl, rfl⟩ := Prod.mk.inj (Option.some.inj h)
      exact if_pos hle
    · cases h
  · cases h

theorem boundedFrom_append {read : Nat × List Char} {counts : Nat × Option Nat}
    (h : boundedFrom extended read = some (counts, rest)) :
    boundedFrom extended (read.1, read.2 ++ closing) = some (counts, rest ++ closing) := by
  obtain ⟨least, behind⟩ := read
  unfold boundedFrom at h
  split at h
  · next hbehind =>
    subst hbehind
    obtain ⟨rfl, rfl⟩ := Prod.mk.inj (Option.some.inj h)
    rfl
  · next rest' hbehind =>
    subst hbehind
    simp only [List.cons_append, boundedFrom]
    split at h
    · next hskip =>
      obtain ⟨rfl, rfl⟩ := Prod.mk.inj (Option.some.inj h)
      rw [skipBlanks_append hskip]
      rfl
    · next hne =>
      obtain ⟨⟨most, behind⟩, hmost, hbounds⟩ := Option.bind_eq_some_iff.mp h
      have hbehind := boundedBy_append hbounds
      cases behind with
      | nil => cases hbounds
      | cons b behind =>
        have hread : readCount extended (skipBlanks extended rest' ++ closing) =
            some (most, b :: behind ++ closing) := readCount_append hmost
        cases hskip : skipBlanks extended rest' with
        | nil =>
          rw [hskip] at hmost
          cases extended <;> cases hmost
        | cons d more =>
          rw [skipBlanks_append hskip, ← hskip]
          split
          · next heq =>
            rw [hskip] at heq
            exact absurd ((List.cons.inj heq).1 ▸ hskip) (hne more)
          · rw [hread, Option.bind_some, hbehind]
  · cases h

theorem readCounts_append {counts : Nat × Option Nat}
    (h : readCounts extended cs = some (counts, rest)) :
    readCounts extended (cs ++ closing) = some (counts, rest ++ closing) := by
  rw [readCounts_eq] at h ⊢
  obtain ⟨⟨least, behind⟩, hleast, hbounds⟩ := Option.bind_eq_some_iff.mp h
  have hbehind := boundedFrom_append hbounds
  cases behind with
  | nil => cases hbounds
  | cons c behind => rw [readCount_append hleast, Option.bind_some, hbehind]

end Telemetry.Regex

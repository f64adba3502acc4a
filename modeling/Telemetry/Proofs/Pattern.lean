import Telemetry.Pattern
import Telemetry.Proofs.Regex.Enclosed
import Telemetry.Proofs.Regex.Positions

/-!
# Whole matches

A pattern whose text is an expression of its own accepts exactly the values that this expression
matches from the first to the last character (`Pattern.accepts_iff_whole`): within the anchors the
text denotes the same expression (`Regex.parse_anchored`), and an anchored expression is only found
in a text that it matches as a whole (`Regex.found_anchored_iff`).

The text of a pattern need not be an expression of its own. One that closes the group around it
takes its alternatives out of the anchors.
-/

namespace Telemetry

namespace Regex

variable {text : List Char} {r : Regex} {i j k : Nat}

/-! ## Anchors -/

/-- The expression between the two ends of a text. -/
def anchored (r : Regex) : Regex := cats [.look .textStart, r, .look .textEnd]

theorem holds_textStart_iff {after : Option Char} (h : i ≤ text.length) :
    Look.textStart.holds (before text i) after = true ↔ i = 0 := by
  show (before text i).isNone = true ↔ i = 0
  rw [Option.isNone_iff_eq_none, before]
  split
  · next hi => simp [hi]
  · next hi =>
    rw [List.getElem?_eq_none_iff]
    omega

theorem holds_textEnd_iff {before : Option Char} (h : i ≤ text.length) :
    Look.textEnd.holds before (after text i) = true ↔ i = text.length := by
  show (after text i).isNone = true ↔ i = text.length
  rw [Option.isNone_iff_eq_none, after, List.getElem?_eq_none_iff]
  omega

theorem found_anchored_iff : r.anchored.Found text ↔ r.Whole text := by
  constructor
  · rintro ⟨i, j, hij, hj, hspan⟩
    cases hspan with
    | cat hstart hrest =>
      cases hstart with
      | look _ _ hstart =>
        cases hrest with
        | cat hspan hrest =>
          cases hrest with
          | cat hend hnothing =>
            cases hend with
            | look _ _ hend =>
              cases hnothing with
              | empty =>
                obtain rfl := (holds_textStart_iff (Nat.le_trans hij hj)).mp hstart
                obtain rfl := (holds_textEnd_iff hj).mp hend
                exact hspan
  · intro hwhole
    refine ⟨0, text.length, Nat.zero_le _, Nat.le_refl _, ?_⟩
    have hstart : Spans text (.look .textStart) 0 0 :=
      .look _ 0 ((holds_textStart_iff (Nat.zero_le _)).mpr rfl)
    have hend : Spans text (.look .textEnd) text.length text.length :=
      .look _ _ ((holds_textEnd_iff (Nat.le_refl _)).mpr rfl)
    exact .cat hstart (.cat hwhole (.cat hend (.empty _)))

/-! ## Reading between anchors -/

/-- The group around a text that is anchored, behind the start of the whole. -/
def anchorGroup : Group := ⟨{}, [.ofRegex (.look .textStart) 0], [], false⟩

theorem readParts_open (cs : List Char) :
    readParts {} ("^(?:".toList ++ cs) = readParts (({} : Reading).within anchorGroup) cs := by
  have hcaret : step {} ('^' :: '(' :: '?' :: ':' :: cs) =
      some (({} : Reading).push (.ofRegex (.look .textStart) 0), '(' :: '?' :: ':' :: cs) := rfl
  have hgroup : step (({} : Reading).push (.ofRegex (.look .textStart) 0)) ('(' :: '?' :: ':' :: cs) =
      some (({} : Reading).within anchorGroup, cs) := rfl
  show readParts {} ('^' :: '(' :: '?' :: ':' :: cs) = _
  rw [readParts_of_cons rfl hcaret (Nat.lt_succ_self _), readParts_of_cons rfl hgroup]
  simp only [List.length_cons]
  omega

theorem readParts_close {r : Reading} (h : r.groups = []) :
    ∃ r', readParts (r.within anchorGroup) closing = some r' ∧ r'.groups = [] ∧
      r'.content.regex = r.content.regex.anchored := by
  have hclosing : skipBlanks (r.within anchorGroup).flags.extended closing = closing :=
    skipBlanks_closing
  -- behind the group the parts are the start of the text and the group, latest first
  let left : Reading := ⟨{}, [⟨r.content.regex, 1 + r.content.depth, r.content.states, true⟩,
    .ofRegex (.look .textStart) 0], [], [], r.names⟩
  have hleave : (r.within anchorGroup).leave = some left := by
    unfold Reading.leave Reading.within
    rw [h]
    rfl
  have hdollar : step left ['$'] = some (left.push (.ofRegex (.look .textEnd) 0), []) := rfl
  have hlength : ([] : List Char).length < ['$'].length := Nat.zero_lt_succ 0
  have hread : readParts left ['$'] = some (left.push (.ofRegex (.look .textEnd) 0)) :=
    (readParts_of_cons rfl hdollar hlength).trans (readParts_of_nil rfl)
  rw [readParts_closing hclosing, hleave, Option.bind_some]
  exact ⟨_, hread, rfl, rfl⟩

theorem parse_eq_ok (h : parse text = .ok r) :
    ∃ reading, readParts {} text = some reading ∧ reading.groups = [] ∧
      reading.content.regex = r := by
  unfold parse at h
  split at h
  · cases h
  · next reading hread =>
    dsimp only at h
    split at h
    · cases h
    · next hclosed =>
      split at h
      · cases h
      · simp only [Bool.or_eq_true, Bool.not_eq_true', not_or, Bool.not_eq_false,
          List.isEmpty_iff] at hclosed
        exact ⟨reading, hread, hclosed.1, Except.ok.inj h⟩

/-- Between anchors a text denotes the expression that it denotes alone, unless the whole text is no
expression. -/
theorem parse_anchored {raw : List Char} {whole : Regex} (hr : parse raw = .ok r)
    (hwhole : parse ("^(?:".toList ++ raw ++ ")$".toList) = .ok whole) : whole = r.anchored := by
  obtain ⟨reading, hread, hgroups, rfl⟩ := parse_eq_ok hr
  obtain ⟨reading', hread', hgroups', rfl⟩ := parse_eq_ok hwhole
  rw [List.append_assoc, readParts_open] at hread'
  rcases readParts_within anchorGroup hread with hclosed | hopen
  · obtain ⟨r', hr', -, hregex⟩ := readParts_close hgroups
    obtain rfl := Option.some.inj ((hclosed.trans hr').symm.trans hread')
    exact hregex
  · obtain rfl := Option.some.inj (hopen.symm.trans hread')
    rw [Reading.within, hgroups] at hgroups'
    cases hgroups'

end Regex

namespace Pattern

open Regex

/-- **A pattern whose text is an expression accepts the values that the expression matches as a
whole.** -/
theorem accepts_iff_whole {raw : String} {p : Pattern} {r : Regex} (hp : compile raw = .ok p)
    (hr : Regex.parse raw.toList = .ok r) (value : String) :
    p.accepts value = true ↔ r.Whole value.toList := by
  have hraw := raw_of_compile hp
  have hwhole := p.compiled
  rw [hraw] at hwhole
  rw [accepts, isFound_iff, parse_anchored hr hwhole, found_anchored_iff]

/-- The text `a|b` is an expression, and two letters are accepted only if it matches both of them. -/
theorem accepts_iff_whole_alternatives :
    ∃ p r, compile "a|b" = .ok p ∧ Regex.parse "a|b".toList = .ok r ∧
      (p.accepts "ab" = true ↔ r.Whole "ab".toList) := by
  have hcompiles : (compile "a|b").isOk = true := by decide +kernel
  have hparses : (Regex.parse "a|b".toList).isOk = true := by decide +kernel
  cases hp : compile "a|b" with
  | error fault =>
    rw [hp] at hcompiles
    cases hcompiles
  | ok p =>
    cases hr : Regex.parse "a|b".toList with
    | error fault =>
      rw [hr] at hparses
      cases hparses
    | ok r => exact ⟨p, r, rfl, rfl, accepts_iff_whole hp hr "ab"⟩

/-- The text `a)|(?:b` is no expression. Between the anchors it is one, which is found in every
value that begins with `a`. -/
theorem accepts_beyond_anchors :
    ¬ ∀ raw p, compile raw = .ok p → ∀ value, p.accepts value = true ↔
      ∃ r, Regex.parse raw.toList = .ok r ∧ r.Whole value.toList := by
  intro h
  have hfound : (compile "a)|(?:b").toOption.any (·.accepts "ax") = true := by decide +kernel
  have hparse : (Regex.parse "a)|(?:b".toList).isOk = false := by decide +kernel
  cases hp : compile "a)|(?:b" with
  | error fault =>
    rw [hp] at hfound
    cases hfound
  | ok p =>
    rw [hp] at hfound
    obtain ⟨r, hr, -⟩ := (h "a)|(?:b" p hp "ax").mp hfound
    rw [hr] at hparse
    cases hparse

end Pattern

end Telemetry

import Telemetry.Proofs.Collection.Selection

/-!
# Separators of the settings

Settings refuse some separators, and none of those that they allow gets in the way of a path. It may
stand within a pattern, but there it does not cut: a pattern that nests its brackets has one open
from its first character to its last (`isToken_of_nests`), and outside of patterns no element
contains a separator. So with every separator of the settings paths are read as they are written,
and so is all that is written for rules and metrics (`parse_text_of_check`).

* `Namespace.openBrackets`, `Namespace.Nests`: texts within a pair of brackets.
-/

namespace Telemetry

variable {e : Element} {r : Resolution} {ns : Namespace}

/-! ## Texts within brackets -/

namespace Namespace

variable {separator : Char} {depth : Nat} {cs : List Char}

/-- How many brackets are open behind a text. -/
def openBrackets : (depth : Nat) → List Char → Nat
  | depth, [] => depth
  | depth, c :: cs =>
    if c = '[' ∨ c = '{' then openBrackets (depth + 1) cs
    else if c = ']' ∨ c = '}' then openBrackets (depth - 1) cs
    else openBrackets depth cs

/-- All brackets are closed by the last character, and not before. -/
def Nests (cs : List Char) : Prop :=
  openBrackets 0 cs = 0 ∧ ∀ i < cs.length, 0 < i → openBrackets 0 (cs.take i) ≠ 0

instance : DecidablePred Nests := fun cs => inferInstanceAs (Decidable (_ ∧ ∀ i < cs.length, _))

theorem depthAfter_eq_openBrackets
    (h : ∀ i, cs[i]? = some separator → openBrackets depth (cs.take i) ≠ 0) :
    depthAfter separator depth cs = some (openBrackets depth cs) := by
  induction cs generalizing depth with
  | nil => rfl
  | cons c cs ih =>
    have hrest : ∀ depth', (∀ i, openBrackets depth (c :: cs.take i) =
        openBrackets depth' (cs.take i)) →
        depthAfter separator depth' cs = some (openBrackets depth' cs) := fun depth' hopen =>
      ih fun i hi => hopen i ▸ h (i + 1) (by simpa using hi)
    rw [depthAfter, openBrackets]
    split_ifs with hopening hclosing hseparator
    · exact hrest (depth + 1) fun i => by rw [openBrackets, if_pos hopening]
    · exact hrest (depth - 1) fun i => by rw [openBrackets, if_neg hopening, if_pos hclosing]
    · obtain ⟨rfl, rfl⟩ := hseparator
      exact absurd rfl (h 0 rfl)
    · exact hrest depth fun i => by rw [openBrackets, if_neg hopening, if_neg hclosing]

theorem isToken_of_nests (hnests : Nests cs) (hhead : cs.head? ≠ some separator) :
    IsToken separator cs := by
  rw [IsToken, depthAfter_eq_openBrackets, hnests.1]
  intro i hi
  cases i with
  | zero => exact absurd (List.head?_eq_getElem? ▸ hi) hhead
  | succ i => exact hnests.2 (i + 1) (List.getElem?_eq_some_iff.mp hi).1 (Nat.succ_pos i)

theorem isToken_chars_of_nests (h : Separates separator) (hpattern : e.pattern?.isSome = true)
    (hnests : Nests e.chars) : IsToken separator e.chars := by
  have hbracket := h.not_bracket
  simp only [List.mem_cons, List.not_mem_nil, or_false, not_or] at hbracket
  refine isToken_of_nests hnests ?_
  cases e with
  | pattern p => simpa [Element.chars, eq_comm] using hbracket.2.1
  | groupPattern g p => simpa [Element.chars, eq_comm] using hbracket.1
  | _ => cases hpattern

end Namespace

/-! ## Definitions of metrics -/

theorem Element.wellFormed_definedBy {group : Option String} (he : e.WellFormed)
    (hvalue : e.value?.isSome = true) (hgroup : ∀ g ∈ group, isIdentifier g.toList = true) :
    (e.definedBy group).WellFormed := by
  cases group with
  | none =>
    have hplain : (e.bindTo none).WellFormed := wellFormed_bindTo he hvalue hgroup
    exact hplain
  | some g => exact hgroup g rfl

variable {separator : Char} {text : String}

theorem parse_key {h : Definitions.History} (hs : h.Sound separator)
    (hseparator : Namespace.Separates separator)
    (hread : Namespace.parse separator false text = .ok ns)
    (hconcrete : ∀ e ∈ ns.elements, Namespace.isConcreteElement false e = true)
    (hresolve : h.definitions.resolve ns = some r) :
    Namespace.parse separator false (r.key ns) = .ok (ns.definedBy r) := by
  obtain rfl : ns.separator = separator := Namespace.separator_of_parse hread
  rw [key_eq_text_definedBy]
  refine Collection.parse_text_zip hs hseparator (fun e group he hvalue hgroup => ?_) hread
    hconcrete hresolve
  refine ⟨Element.wellFormed_definedBy he hvalue hgroup, ?_⟩
  cases group <;> simp [Element.definedBy, Element.pattern?]

/-! ## Separators that settings allow -/

namespace Settings

open Definitions (History)

theorem separates_of_check {settings : Settings} (h : settings.check = .ok settings) :
    Namespace.Separates settings.definition.separator := by
  refine Namespace.separates_of_isSeparator ?_
  by_contra hnot
  simp [check, isValid, hnot] at h

/-- **With every separator of the settings, paths are read as they are written**: all paths of
well-formed elements whose patterns nest their brackets, and in particular what is written for
rules, for metrics with their groups and for their definitions; and what is read is written as it
was. -/
theorem parse_text_of_check (settings : Settings) (hcheck : settings.check = .ok settings) :
    let separator := settings.definition.separator
    (∀ (filter : Bool) (elements : List Element), elements ≠ [] →
      (∀ e ∈ elements, e.WellFormed) →
      (∀ e ∈ elements, e.pattern?.isSome = true → Namespace.Nests e.chars) →
      TrailingLast elements → (.trailing ∈ elements → filter = true) →
        Namespace.parse separator filter (Namespace.text ⟨separator, elements⟩) =
          .ok ⟨separator, elements⟩) ∧
    (∀ filter raw ns, Namespace.parse separator filter raw = .ok ns → ns.text = raw) ∧
    ∀ changes : List Definitions.Change, (∀ c ∈ changes, c.Keeps separator) →
      let d := ((History.start settings.definition).run changes).definitions
      (∀ rule ∈ d.listRules, ∃ path, d.parse rule = .ok ⟨separator, path⟩) ∧
      ∀ raw ns r, d.parse raw = .ok ns →
        (∀ e ∈ ns.elements, Namespace.isConcreteElement false e = true) →
        d.resolve ns = some r →
          (boundText ns r = (ns.bindTo r).text ∧ d.parse (ns.bindTo r).text = .ok (ns.bindTo r)) ∧
          r.key ns = (ns.definedBy r).text ∧
            d.parse (ns.definedBy r).text = .ok (ns.definedBy r) := by
  intro separator
  have hseparator : Namespace.Separates separator := separates_of_check hcheck
  refine ⟨fun filter elements hne hwell hnests hlast hfilter => ?_,
    fun filter raw ns => Namespace.text_of_parse, fun changes hchanges => ?_⟩
  · refine Namespace.parse_text_of_isToken hseparator.not_bracket hne (fun e he => ?_) hlast hfilter
    refine ⟨hwell e he, ?_⟩
    cases hpattern : e.pattern? with
    | none => exact Namespace.isToken_chars hseparator (hwell e he) hpattern
    | some p =>
      have hsome : e.pattern?.isSome = true := by rw [hpattern, Option.isSome_some]
      exact Namespace.isToken_chars_of_nests hseparator hsome (hnests e he hsome)
  · intro d
    have hs : ((History.start settings.definition).run changes).Sound separator :=
      (History.sound_start settings.definition).run hchanges
    have hparse : ∀ raw, d.parse raw = Namespace.parse separator false raw := fun raw => by
      rw [Definitions.parse, hs.separator_eq]
    simp only [hparse]
    refine ⟨fun rule hrule => ?_, fun raw ns r hread hconcrete hresolve => ?_⟩
    · rw [Definitions.listRules, hs.separator_eq] at hrule
      exact hs.holds.readable rule (hs.holds.mem_rules_iff.mp hrule)
    · rw [← boundText_eq_text, ← key_eq_text_definedBy]
      exact ⟨⟨rfl, Collection.parse_boundText hs hseparator hread hconcrete hresolve⟩, rfl,
        parse_key hs hseparator hread hconcrete hresolve⟩

/-- The colon separates elements, and does not cut the pattern that contains it. -/
theorem parse_text_of_check_colon :
    let settings : Settings := { definition := { separator := ':', dynamicLast := true } }
    settings.check = .ok settings ∧
      ∃ p, Pattern.compile "(?:a)[bc]" = .ok p ∧
        Namespace.text ⟨':', [.name "p", .groupPattern "g" p, .trailing]⟩ =
          ":p:[g=\x7b(?:a)[bc]\x7d]:**" ∧
        Namespace.parse ':' true ":p:[g=\x7b(?:a)[bc]\x7d]:**" =
          .ok ⟨':', [.name "p", .groupPattern "g" p, .trailing]⟩ := by
  intro settings
  have hcheck : settings.check = .ok settings := by decide +kernel
  have hcompile : (Pattern.compile "(?:a)[bc]").map (·.raw) = .ok "(?:a)[bc]" := by decide +kernel
  obtain ⟨p, hp, hraw⟩ := Except.exists_of_map_eq_ok hcompile
  have htext : Namespace.text ⟨':', [.name "p", .groupPattern "g" p, .trailing]⟩ =
      ":p:[g=\x7b(?:a)[bc]\x7d]:**" := by
    simp [Namespace.text, Namespace.charsOf, Element.chars, hraw]
  refine ⟨hcheck, p, hp, htext, ?_⟩
  rw [← htext]
  refine (parse_text_of_check settings hcheck).1 true _ (by simp) ?_ ?_ ?_ fun _ => rfl
  · have hname : isIdentifier "p".toList = true ∧ isIdentifier "g".toList = true := by decide
    simpa [Element.WellFormed, hraw] using hname
  · have hnests : Namespace.Nests (Element.groupPattern "g" p).chars := by
      rw [Element.chars, hraw]
      decide
    simpa [Element.pattern?] using hnests
  · simp [TrailingLast]

end Settings

end Telemetry

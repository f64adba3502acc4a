import Telemetry.Proofs.Catalog
import Telemetry.Proofs.Collection.Recording
import Telemetry.Proofs.Namespace.Reading
import Telemetry.Proofs.Rule.Admission

/-!
# What a selector selects

Selectors are matched on texts: the path of a metric is written with its groups, read again, and
matched to the selector, which is read as well. Nothing gets lost on the way. What is written for a
metric that resolves is read as the elements it was written from (`parse_boundText`), so a selector
selects the metrics whose elements its own ones admit, position by position (`selects_boundText`).

* `Element.bindTo`, `Namespace.bindTo`: the elements that are written for a metric.
* `Element.definedBy`, `Namespace.definedBy`: those that are written for its definition.
* `Namespace.selectedBy`: the same question about elements.
-/

namespace Telemetry

/-- An element at a position that is bound to a group, or to none. -/
def Element.bindTo (e : Element) : (group : Option String) → Element
  | some g => .bound g (e.value?.getD "")
  | none => .name (e.value?.getD "")

/-- The element of a definition: its group, or else the value that a metric has there. -/
def Element.definedBy (e : Element) : (group : Option String) → Element
  | some g => .group g
  | none => .name (e.value?.getD "")

namespace Namespace

/-- The path with every bound position written as such, and the bare value everywhere else. -/
def bindTo (ns : Namespace) (r : Resolution) : Namespace :=
  ⟨ns.separator, (ns.elements.zip r).map fun (e, group) => e.bindTo group⟩

/-- The path of a definition, with the groups that a metric is bound to. -/
def definedBy (ns : Namespace) (r : Resolution) : Namespace :=
  ⟨ns.separator, (ns.elements.zip r).map fun (e, group) => e.definedBy group⟩

/-- Whether the selector selects everything, or each of its elements before a trailing `**` admits
the one at its position. -/
def selectedBy (separator : Char) (selector : String) (elements : List Element) : Bool :=
  Collection.selectsAll separator selector ||
    match parse separator true selector with
    | .error _ => false
    | .ok filter =>
      (required filter.elements).length ≤ elements.length &&
        ((required filter.elements).zip elements).all fun (f, e) => f.admits e

end Namespace

variable {elements : List Element} {r : Resolution} {separator : Char}

/-! ## What is written -/

theorem Element.chars_bindTo (e : Element) (group : Option String) :
    (e.bindTo group).chars = boundChars e group := by
  cases group <;> rfl

theorem boundText_eq_text (ns : Namespace) (r : Resolution) :
    boundText ns r = (ns.bindTo r).text := by
  simp only [boundText, Namespace.text, Namespace.charsOf, Namespace.bindTo, List.flatMap_map,
    Element.chars_bindTo]

theorem key_eq_text_definedBy (ns : Namespace) (r : Resolution) :
    r.key ns = (ns.definedBy r).text := by
  simp only [Resolution.key, Namespace.text, Namespace.charsOf, Namespace.definedBy,
    List.flatMap_map]
  congr 2
  funext pair
  obtain ⟨e, group⟩ := pair
  cases group <;> rfl

/-! ## What a metric is bound to -/

namespace Definitions

variable {d : Definitions} {ns : Namespace}

theorem length_of_resolveFrom {anyLevel isEnd : Bool} {b : Branches}
    (h : resolveFrom anyLevel isEnd b elements = some r) : r.length = elements.length := by
  induction elements generalizing isEnd b r with
  | nil =>
    rw [resolveFrom, Option.ite_none_right_eq_some] at h
    rw [← Option.some.inj h.2]
    rfl
  | cons e elements ih =>
    rw [resolveFrom] at h
    split at h
    · cases h
    · obtain ⟨r', hr', rfl⟩ := Option.map_eq_some_iff.mp h
      rw [List.length_cons, List.length_cons, ih hr']

theorem length_of_resolve (h : d.resolve ns = some r) : r.length = ns.elements.length := by
  rw [resolve] at h
  split at h
  · rw [← Option.some.inj h, List.length_map]
  · rcases Option.or_eq_some_iff.mp h with hrule | ⟨-, hundefined⟩
    · exact length_of_resolveFrom hrule
    · rw [Option.ite_none_right_eq_some] at hundefined
      rw [← Option.some.inj hundefined.2, List.length_map]

theorem head?_of_resolve (hd : d.WellFormed) (hne : ns.elements ≠ [])
    (h : d.resolve ns = some r) : r.head? = some none := by
  have hlength := length_of_resolve h
  obtain ⟨e, elements, helements⟩ := List.exists_cons_of_ne_nil hne
  rw [helements, List.length_cons] at hlength
  obtain ⟨group, r', rfl⟩ := List.exists_cons_of_length_eq_add_one hlength
  rcases isStatic_or_offers hd hne h with hstatic | ⟨path, hoffer, -, hr⟩
  · rw [Resolution.isStatic, List.all_cons, Bool.and_eq_true, Option.isNone_iff_eq_none] at hstatic
    rw [hstatic.1, List.head?_cons]
  · obtain ⟨rule, hrule, hprefix⟩ := hoffer.isPrefix
    obtain ⟨first, path, rfl⟩ := List.exists_cons_of_ne_nil hoffer.ne_nil
    obtain ⟨rest, rfl⟩ := hprefix
    have hname : first.isName = true := by simpa using hd.head _ hrule
    rw [hr]
    cases first <;> simp_all [Element.isName, Element.groupName?]

theorem History.Sound.isIdentifier_of_mem_resolve {h : History} (hs : h.Sound separator)
    (hne : ns.elements ≠ []) (hresolve : h.definitions.resolve ns = some r) {g : String}
    (hg : some g ∈ r) : isIdentifier g.toList = true := by
  rcases isStatic_or_offers hs.wellFormed hne hresolve with hstatic | ⟨path, hoffer, -, rfl⟩
  · rw [Resolution.isStatic, List.all_eq_true] at hstatic
    exact absurd (hstatic _ hg) (by simp)
  · obtain ⟨e, he, hgroup⟩ := List.mem_map.mp hg
    obtain ⟨rule, hrule, hprefix⟩ := hoffer.isPrefix
    obtain ⟨text, -, hread⟩ := (hs.holds.mem_paths rule).mp hrule
    have hwell := Namespace.wellFormed_of_parse hread e (List.IsPrefix.subset hprefix he)
    cases e <;> simp_all [Element.groupName?, Element.WellFormed]

end Definitions

/-! ## What is read again -/

theorem Element.wellFormed_bindTo {e : Element} {group : Option String} (he : e.WellFormed)
    (hvalue : e.value?.isSome = true) (hgroup : ∀ g ∈ group, isIdentifier g.toList = true) :
    (e.bindTo group).WellFormed := by
  have hident : isIdentifier (e.value?.getD "").toList = true := by
    cases e with
    | name v => exact he
    | bound g v => exact he.2
    | _ => cases hvalue
  cases group with
  | none => exact hident
  | some g => exact ⟨hgroup g rfl, hident⟩

namespace Namespace

variable {ns filter : Namespace}

theorem isConcrete_bindTo (htwo : 2 ≤ ns.elements.length) (hlength : r.length = ns.elements.length)
    (hhead : r.head? = some none) : (ns.bindTo r).isConcrete true = true := by
  obtain ⟨separator, elements⟩ := ns
  have hbound : ∀ (e : Element) group, isConcreteElement true (e.bindTo group) = true := by
    intro e group
    cases group <;> rfl
  match elements, r, htwo, hlength with
  | first :: second :: elements, group :: group' :: r, _, _ =>
    obtain rfl : group = none := Option.some.inj hhead
    have hrest : ∀ e ∈ (second.bindTo group' ::
        (elements.zip r).map fun (e, group) => e.bindTo group), isConcreteElement true e = true := by
      refine List.forall_mem_cons.mpr ⟨hbound second group', fun e he => ?_⟩
      obtain ⟨⟨e', group⟩, -, rfl⟩ := List.mem_map.mp he
      exact hbound e' group
    show (Element.isName (first.bindTo none) && _) = true
    rw [Bool.and_eq_true]
    exact ⟨rfl, List.all_eq_true.mpr hrest⟩

/-! ## Matching elements -/

theorem length_required (filter : Namespace) :
    filter.length - (if filter.isTrailing then 1 else 0) = (required filter.elements).length := by
  unfold isTrailing required length
  by_cases hlast : filter.elements.getLast? = some .trailing <;> simp [hlast]

/-- Comparing up to `**` compares with the elements before it. -/
theorem admitsPrefix_eq_all {filter : List Element} (hlast : TrailingLast filter)
    (elements : List Element) : admitsPrefix filter elements =
      ((required filter).zip elements).all fun (f, e) => f.admits e := by
  induction filter generalizing elements with
  | nil => rfl
  | cons f filter ih =>
    by_cases hf : f = .trailing
    · subst hf
      rw [hlast.eq_nil]
      rfl
    · rw [required_cons hf]
      cases elements with
      | nil => cases f <;> simp_all [admitsPrefix]
      | cons e elements =>
        rw [List.zip_cons_cons, List.all_cons, ← ih hlast.of_cons elements]
        cases f <;> simp_all [admitsPrefix]

theorem matchesFilter_eq (hlast : TrailingLast filter.elements) : ns.matchesFilter filter =
    if ns.length < (required filter.elements).length then
      .error (.tooFewElements ns.length (required filter.elements).length)
    else .ok (((required filter.elements).zip ns.elements).all fun (f, e) => f.admits e) := by
  rw [matchesFilter, length_required, admitsPrefix_eq_all hlast]

end Namespace

theorem Collection.selectsAll_eq_true_iff {selector : String} :
    selectsAll separator selector = true ↔
      selector.toList = [] ∨ selector.toList = [separator] := by
  have hsingle : separator.toString.toList = [separator] := by simp
  rw [selectsAll, Bool.or_eq_true, String.isEmpty_iff, beq_iff_eq, ← String.toList_eq_nil_iff,
    ← String.toList_inj, hsingle]

theorem Registration.selects_eq_selectedBy (g : Registration) {text : String} {ns : Namespace}
    (hread : Namespace.parse separator false text = .ok ns)
    (hconcrete : ns.isConcrete true = true) :
    g.selects separator text = Namespace.selectedBy separator g.selector ns.elements := by
  unfold selects Namespace.selectedBy Namespace.matchText
  simp only [hread, hconcrete, Bool.not_true, Bool.false_eq_true, if_false,
    ← Collection.selectsAll_eq_true_iff]
  cases hselector : Collection.selectsAll separator g.selector with
  | true => simp
  | false =>
    rw [if_neg Bool.false_ne_true, Bool.false_or]
    cases hfilter : Namespace.parse separator true g.selector with
    | error e => rfl
    | ok filter =>
      dsimp only
      rw [Namespace.matchesFilter_eq (Namespace.trailingLast_of_parse hfilter)]
      by_cases hlength : (Namespace.required filter.elements).length ≤ ns.length
      · rw [if_neg (Nat.not_lt.mpr hlength)]
        simp [show _ ≤ ns.elements.length from hlength]
      · rw [if_pos (Nat.not_le.mp hlength)]
        simp [show ¬ _ ≤ ns.elements.length from hlength]

namespace Collection

variable {σ : Type} {c : Collection σ} {text : String} {ns : Namespace}

theorem parse_text_zip {h : Definitions.History} (hs : h.Sound separator)
    (hseparator : Namespace.Separates separator) {of : Element → Option String → Element}
    (hof : ∀ e group, e.WellFormed → e.value?.isSome = true →
      (∀ g ∈ group, isIdentifier g.toList = true) →
        (of e group).WellFormed ∧ (of e group).pattern? = none ∧ of e group ≠ .trailing)
    (hread : Namespace.parse separator false text = .ok ns)
    (hconcrete : ∀ e ∈ ns.elements, Namespace.isConcreteElement false e = true)
    (hresolve : h.definitions.resolve ns = some r) :
    let written : Namespace := ⟨separator, (ns.elements.zip r).map fun (e, group) => of e group⟩
    Namespace.parse separator false written.text = .ok written := by
  intro written
  have hne := Namespace.elements_ne_nil_of_parse hread
  have hwritten : written.elements ≠ [] := by
    refine List.ne_nil_of_length_pos ?_
    rw [List.length_map, List.length_zip, Definitions.length_of_resolve hresolve, Nat.min_self]
    exact List.length_pos_iff.mpr hne
  refine Namespace.parse_text_of_single hseparator hwritten fun e he => ?_
  obtain ⟨⟨e', group⟩, hmem, rfl⟩ := List.mem_map.mp he
  have he' : e' ∈ ns.elements := (List.of_mem_zip hmem).1
  have hvalue : e'.value?.isSome = true := by
    have hconcrete := hconcrete e' he'
    cases e' <;> simp_all [Namespace.isConcreteElement, Element.value?]
  refine hof e' group (Namespace.wellFormed_of_parse hread e' he') hvalue ?_
  rintro g rfl
  exact hs.isIdentifier_of_mem_resolve hne hresolve (List.of_mem_zip hmem).2

theorem parse_boundText {h : Definitions.History} (hs : h.Sound separator)
    (hseparator : Namespace.Separates separator)
    (hread : Namespace.parse separator false text = .ok ns)
    (hconcrete : ∀ e ∈ ns.elements, Namespace.isConcreteElement false e = true)
    (hresolve : h.definitions.resolve ns = some r) :
    Namespace.parse separator false (boundText ns r) = .ok (ns.bindTo r) := by
  obtain rfl : ns.separator = separator := Namespace.separator_of_parse hread
  rw [boundText_eq_text]
  refine parse_text_zip hs hseparator (fun e group he hvalue hgroup => ?_) hread hconcrete hresolve
  refine ⟨Element.wellFormed_bindTo he hvalue hgroup, ?_⟩
  cases group <;> simp [Element.bindTo, Element.pattern?]

theorem selects_boundText {h : Definitions.History} (hs : h.Sound separator)
    (hseparator : Namespace.Separates separator) (hd : c.catalog.definitions = h.definitions)
    (hresolve : c.resolve text = .ok (ns, r)) (g : Registration) :
    g.selects separator (boundText ns r) =
      Namespace.selectedBy separator g.selector (ns.bindTo r).elements := by
  obtain ⟨hread, hflaw, hdefined⟩ := resolve_eq_ok_iff.mp hresolve
  rw [Definitions.parse, hd, hs.separator_eq] at hread
  rw [hd] at hdefined
  have hconcrete := isConcreteElement_of_pathFlaw?_eq_none hflaw
  refine g.selects_eq_selectedBy (parse_boundText hs hseparator hread hconcrete hdefined) ?_
  exact Namespace.isConcrete_bindTo (two_le_length_of_pathFlaw?_eq_none hflaw)
    (Definitions.length_of_resolve hdefined)
    (Definitions.head?_of_resolve hs.wellFormed (Namespace.elements_ne_nil_of_parse hread) hdefined)

end Collection

end Telemetry

import Telemetry.Collection.Basic
import Telemetry.Proofs.Rule.Resolution

/-!
# What a collection records

A metric goes through three gates: its path must have no flaw, resolve, and be asked for
(`resolve_eq_ok_iff`, `addMetric_of_resolve`). Then it is made from the values and groups of its
path, and modified; of all that, only the timestamp depends on when it is added
(`Modifier.exists_applyAll_timestamp`).
-/

namespace Telemetry

variable {elements path : List Element} {r : Resolution}

/-! ## Flaws of a path -/

theorem two_le_length_of_pathFlaw?_eq_none {hasDefinitions allowAny : Bool}
    (h : pathFlaw? hasDefinitions allowAny elements = none) : 2 ≤ elements.length := by
  unfold pathFlaw? at h
  split_ifs at h with hlength
  omega

theorem isConcreteElement_of_pathFlaw?_eq_none {hasDefinitions allowAny : Bool}
    (h : pathFlaw? hasDefinitions allowAny elements = none) :
    ∀ e ∈ elements, Namespace.isConcreteElement allowAny e = true := by
  have helement : ∀ e, elementFlaw? hasDefinitions allowAny e = none →
      Namespace.isConcreteElement allowAny e = true := by
    intro e he
    cases e <;> simp_all [elementFlaw?, Namespace.isConcreteElement]
  unfold pathFlaw? at h
  split_ifs at h with _ hhead
  cases elements with
  | nil => simp
  | cons first rest =>
    refine List.forall_mem_cons.mpr ⟨?_, fun e he => ?_⟩
    · cases first <;> simp_all [Element.isName, Namespace.isConcreteElement]
    · exact helement e (List.findSome?_eq_none_iff.mp h e he)

theorem pathFlaw?_eq_none_of_instantiates (hlength : 2 ≤ elements.length)
    (hhead : path.head?.any Element.isName = true)
    (hinst : List.Forall₂ Element.Instantiates elements path) :
    pathFlaw? true false elements = none := by
  have helement : ∀ e ∈ elements, elementFlaw? true false e = none := by
    clear hlength hhead
    induction hinst with
    | nil => simp
    | cons he _ ih =>
      refine List.forall_mem_cons.mpr ⟨?_, ih⟩
      cases he <;> rfl
  have hname : elements.head?.any Element.isName = true := by
    cases hinst with
    | nil => cases hhead
    | cons he => cases he <;> simp_all [Element.isName]
  rw [pathFlaw?, if_neg (by omega), if_neg (by simp [hname])]
  exact List.findSome?_eq_none_iff.mpr fun e he => helement e (List.mem_of_mem_tail he)

/-! ## Resolving -/

namespace Collection

variable {σ : Type} {c : Collection σ} {text : String} {ns : Namespace}

theorem resolve_eq_ok_iff : c.resolve text = .ok (ns, r) ↔
    c.catalog.definitions.parse text = .ok ns ∧
      pathFlaw? c.catalog.definitions.hasRules false ns.elements = none ∧
        c.catalog.definitions.resolve ns = some r := by
  dsimp only [resolve]
  cases hparse : c.catalog.definitions.parse text with
  | error e => exact iff_of_false nofun fun h => nomatch h.1
  | ok read =>
    dsimp only
    cases hflaw : pathFlaw? c.catalog.definitions.hasRules false read.elements with
    | some flaw =>
      refine iff_of_false nofun ?_
      rintro ⟨⟨⟩, hnone, -⟩
      exact nomatch hflaw.symm.trans hnone
    | none =>
      cases hresolve : c.catalog.definitions.resolve read with
      | none =>
        refine iff_of_false nofun ?_
        rintro ⟨⟨⟩, -, hsome⟩
        exact nomatch hresolve.symm.trans hsome
      | some found =>
        constructor
        · rintro ⟨⟩
          exact ⟨rfl, hflaw, hresolve⟩
        · rintro ⟨⟨⟩, -, hsome⟩
          cases hresolve.symm.trans hsome
          rfl

/-! ## Adding -/

theorem addMetric_of_resolve (h : c.resolve text = .ok (ns, r)) (now : Instant) (value : Value)
    (modifiers : List Modifier) : (c.addMetric now text value modifiers).value =
      if c.filters.accepts ns then
        ({ c with metrics := c.metrics ++ [Modifier.applyAll (baseMetric c.catalog now ns r value)
          (modifiers ++ c.registeredModifiers (boundText ns r))] }, .ok .added)
      else (c, .ok .filtered) := by
  unfold addMetric recording
  rw [h]
  cases haccepts : c.filters.accepts ns <;> simp [Except.map, haccepts]

theorem addMetric_eq_added_iff (h : c.resolve text = .ok (ns, r)) (now : Instant) (value : Value)
    (modifiers : List Modifier) {d : Collection σ} :
    (c.addMetric now text value modifiers).value = (d, .ok .added) ↔
      c.filters.accepts ns = true ∧
        d = { c with metrics := c.metrics ++ [Modifier.applyAll
          (baseMetric c.catalog now ns r value)
          (modifiers ++ c.registeredModifiers (boundText ns r))] } := by
  rw [addMetric_of_resolve h]
  cases c.filters.accepts ns <;> simp [eq_comm]

end Collection

/-! ## The time of recording -/

namespace Modifier

theorem exists_apply_timestamp (m : Metric) (t : Instant) (modifier : Modifier) :
    ∃ t', apply { m with timestamp := t } modifier =
      { apply m modifier with timestamp := t' } := by
  cases modifier with
  | timestamp t' => exact ⟨t', rfl⟩
  | _ => exact ⟨t, rfl⟩

theorem exists_applyAll_timestamp (m : Metric) (t : Instant) (modifiers : List Modifier) :
    ∃ t', applyAll { m with timestamp := t } modifiers =
      { applyAll m modifiers with timestamp := t' } := by
  induction modifiers generalizing m t with
  | nil => exact ⟨t, rfl⟩
  | cons modifier modifiers ih =>
    obtain ⟨t', happly⟩ := exists_apply_timestamp m t modifier
    obtain ⟨t'', hall⟩ := ih (apply m modifier) t'
    exact ⟨t'', by rw [applyAll, List.foldl_cons, happly]; exact hall⟩

end Modifier

end Telemetry

import Telemetry.Proofs.Catalog
import Telemetry.Proofs.Collection.Recording
import Telemetry.Proofs.Rule.Admission

/-!
# Two spellings of one metric

At a position with a group, a value may be written bare or bound to the group. Both spellings
resolve alike (`resolve_respelled`), and what is recorded depends on the values and the groups only.
Filters, however, see the path as it is written: a rule that names another group at some position
still covers a bare value there. Collections answer alike exactly if this does not decide
(`addMetric_respelled_iff`).

* `Respelled`: one metric in two spellings.
* `Namespace.misnames`: a rule names another group where a path is bound.
* `Filters.History.Asks`: what filters make of the values and the bound positions.
-/

namespace Telemetry

/-- Two spellings: the same elements, or a value bare in one and bound to the group in the other. -/
inductive Respelled : Resolution → List Element → List Element → Prop where
  | nil : Respelled [] [] []
  | same (group : Option String) (e : Element) {r elements elements'}
      (h : Respelled r elements elements') :
      Respelled (group :: r) (e :: elements) (e :: elements')
  | bind (g v : String) {r elements elements'} (h : Respelled r elements elements') :
      Respelled (some g :: r) (.name v :: elements) (.bound g v :: elements')
  | unbind (g v : String) {r elements elements'} (h : Respelled r elements elements') :
      Respelled (some g :: r) (.bound g v :: elements) (.name v :: elements')

variable {elements elements' path rule : List Element} {r : Resolution}

/-- The element without the group that it is bound to. -/
def Element.plain : Element → Element
  | .bound _ v => .name v
  | e => e

/-- At a position where the path is bound, the rule names another group. -/
def Namespace.misnames (rule path : List Element) : Bool :=
  ((required rule).zip path).any fun (f, e) => f.groupName?.any fun g => !Element.sameGroup g e

/-! ## What spellings share -/

namespace Respelled

theorem map_zip {α : Type} {of : Element × Option String → α}
    (h : Respelled r elements elements')
    (hof : ∀ g v, of (.name v, some g) = of (.bound g v, some g)) :
    (elements.zip r).map of = (elements'.zip r).map of := by
  induction h with
  | nil => rfl
  | same group e _ ih => simp only [List.zip_cons_cons, List.map_cons, ih]
  | bind g v _ ih => simp only [List.zip_cons_cons, List.map_cons, ih, hof]
  | unbind g v _ ih => simp only [List.zip_cons_cons, List.map_cons, ih, hof]

theorem eq_of_isStatic (h : Respelled r elements elements') (hr : r.isStatic = true) :
    elements = elements' := by
  induction h with
  | nil => rfl
  | same group e _ ih =>
    rw [Resolution.isStatic, List.all_cons, Bool.and_eq_true] at hr
    rw [ih hr.2]
  | bind g v => simp [Resolution.isStatic] at hr
  | unbind g v => simp [Resolution.isStatic] at hr

theorem instantiates (hinst : List.Forall₂ Element.Instantiates elements path)
    (h : Respelled (path.map Element.groupName?) elements elements') :
    List.Forall₂ Element.Instantiates elements' path := by
  induction hinst generalizing elements' with
  | nil =>
    cases h
    exact .nil
  | cons he _ ih =>
    rw [List.map_cons] at h
    cases he with
    | name v =>
      cases h with
      | same _ _ h => exact .cons (.name v) (ih h)
    | value v g =>
      cases h with
      | same _ _ h => exact .cons (.value v g) (ih h)
      | bind _ _ h => exact .cons (.bound g v) (ih h)
    | bound g v =>
      cases h with
      | same _ _ h => exact .cons (.bound g v) (ih h)
      | unbind _ _ h => exact .cons (.value v g) (ih h)

end Respelled

/-! ## What filters see -/

theorem Element.admits_eq_plain (f e : Element) : f.admits e =
    (f.admits e.plain && !f.groupName?.any fun g => !sameGroup g e) := by
  cases e <;> cases f <;>
    simp [admits, plain, isWildcard, sameGroup, groupName?, value?, Bool.and_comm]

/-- A rule covers a path if it covers the bare values and no bound position stands against it. -/
theorem Namespace.covers_eq_plain (rule path : List Element) :
    covers rule path = (covers rule (path.map Element.plain) && !misnames rule path) := by
  have hall : (((required rule).zip path).all fun (f, e) => f.admits e) =
      ((((required rule).zip (path.map Element.plain)).all fun (f, e) => f.admits e) &&
        !misnames rule path) := by
    rw [misnames, List.zip_map_right, List.all_map]
    induction (required rule).zip path with
    | nil => rfl
    | cons pair pairs ih =>
      obtain ⟨f, e⟩ := pair
      simp only [List.all_cons, List.any_cons, Function.comp, Prod.map, id] at ih ⊢
      rw [ih, Element.admits_eq_plain f e, Bool.not_or]
      ac_rfl
  simp only [covers, List.length_map]
  rw [hall, Bool.and_assoc]

/-- Filters ask for a path if some rule covers its bare values and names no other group where it is
bound, or if there are no rules. -/
def Filters.History.Asks (h : Filters.History) (path : List Element) : Prop :=
  h.accepted = [] ∨ ∃ text ∈ h.accepted, ∃ rule,
    Namespace.parse h.filters.separator true text = .ok ⟨h.filters.separator, rule⟩ ∧
      Namespace.covers rule (path.map Element.plain) = true ∧
        Namespace.misnames rule path = false

theorem Filters.History.Sound.accepts_iff_asks {separator : Char} {h : Filters.History}
    {ns : Namespace} (hs : h.Sound separator)
    (hns : ∀ e ∈ ns.elements, Namespace.isConcreteElement true e = true) :
    h.filters.accepts ns = true ↔ h.Asks ns.elements := by
  rw [hs.accepts_iff hns, Asks, hs.separator_eq]
  simp only [Namespace.covers_eq_plain _ ns.elements, Bool.and_eq_true, Bool.not_eq_true']

/-! ## What collections make of it -/

namespace Collection

variable {σ : Type} {c : Collection σ} {text text' : String} {ns ns' : Namespace}
  {now : Instant} {value : Value}

theorem resolve_respelled (hd : c.catalog.definitions.WellFormed)
    (h : c.resolve text = .ok (ns, r)) (hread : c.catalog.definitions.parse text' = .ok ns')
    (hspelled : Respelled r ns.elements ns'.elements) : c.resolve text' = .ok (ns', r) := by
  obtain ⟨hparse, hflaw, hresolve⟩ := resolve_eq_ok_iff.mp h
  refine resolve_eq_ok_iff.mpr ⟨hread, ?_⟩
  have hne := Namespace.elements_ne_nil_of_parse hparse
  rcases Definitions.isStatic_or_offers hd hne hresolve with hstatic | ⟨path, hoffer, hinst, rfl⟩
  · have hns : ns = ns' := by
      obtain ⟨separator, elements⟩ := ns
      obtain ⟨separator', elements'⟩ := ns'
      obtain rfl : separator = _ := Namespace.separator_of_parse hparse
      obtain rfl : separator' = _ := Namespace.separator_of_parse hread
      obtain rfl : elements = elements' := hspelled.eq_of_isStatic hstatic
      rfl
    exact hns ▸ ⟨hflaw, hresolve⟩
  · have hinst' := hspelled.instantiates hinst
    refine ⟨?_, Definitions.resolve_of_instantiates hd hoffer hinst'⟩
    obtain ⟨rule, hrule, hprefix⟩ := hoffer.isPrefix
    rw [Definitions.hasRules_of_offers hd hoffer]
    refine pathFlaw?_eq_none_of_instantiates ?_ ?_ hinst'
    · rw [hinst'.length_eq, ← hinst.length_eq]
      exact two_le_length_of_pathFlaw?_eq_none hflaw
    · obtain ⟨e, path, rfl⟩ := List.exists_cons_of_ne_nil hoffer.ne_nil
      obtain ⟨rest, rfl⟩ := hprefix
      simpa using hd.head _ hrule

theorem boundText_respelled (hseparator : ns'.separator = ns.separator)
    (hspelled : Respelled r ns.elements ns'.elements) : boundText ns' r = boundText ns r := by
  rw [boundText, boundText, List.flatMap_def, List.flatMap_def, hseparator,
    hspelled.map_zip fun _ _ => rfl]

theorem baseMetric_respelled (hseparator : ns'.separator = ns.separator)
    (hspelled : Respelled r ns.elements ns'.elements) :
    baseMetric c.catalog now ns' r value = baseMetric c.catalog now ns r value := by
  have hkey : r.key ns' = r.key ns := by
    rw [Resolution.key, Resolution.key, List.flatMap_def, List.flatMap_def, hseparator,
      hspelled.map_zip fun _ _ => rfl]
  have hpath : boundPath c.catalog ns' r = boundPath c.catalog ns r := by
    rw [boundPath, boundPath, hspelled.map_zip fun _ _ => rfl]
  rw [baseMetric, baseMetric, hkey, hpath]

theorem answer_eq_iff (h : c.resolve text = .ok (ns, r)) (h' : c.resolve text' = .ok (ns', r))
    (now now' : Instant) (modifiers : List Modifier) :
    (c.addMetric now text value modifiers).value.2 =
        (c.addMetric now' text' value modifiers).value.2 ↔
      (c.filters.accepts ns = true ↔ c.filters.accepts ns' = true) := by
  rw [addMetric_of_resolve h, addMetric_of_resolve h']
  cases c.filters.accepts ns <;> cases c.filters.accepts ns' <;> simp

theorem metrics_respelled (h : c.resolve text = .ok (ns, r)) (h' : c.resolve text' = .ok (ns', r))
    (hseparator : ns'.separator = ns.separator)
    (hspelled : Respelled r ns.elements ns'.elements) {now now' : Instant}
    {modifiers : List Modifier} {d d' : Collection σ}
    (hadd : (c.addMetric now text value modifiers).value = (d, .ok .added))
    (hadd' : (c.addMetric now' text' value modifiers).value = (d', .ok .added)) :
    ∃ m t, d = { c with metrics := c.metrics ++ [m] } ∧
      d' = { c with metrics := c.metrics ++ [{ m with timestamp := t }] } := by
  obtain ⟨-, rfl⟩ := (addMetric_eq_added_iff h now value modifiers).mp hadd
  obtain ⟨-, rfl⟩ := (addMetric_eq_added_iff h' now' value modifiers).mp hadd'
  have hbase : baseMetric c.catalog now' ns' r value =
      { baseMetric c.catalog now ns r value with timestamp := now' } := by
    rw [baseMetric_respelled hseparator hspelled, baseMetric, baseMetric]
    cases c.catalog.metric? (r.key ns) <;> rfl
  obtain ⟨t, hmodified⟩ := Modifier.exists_applyAll_timestamp
    (baseMetric c.catalog now ns r value) now'
    (modifiers ++ c.registeredModifiers (boundText ns r))
  exact ⟨_, t, rfl, by rw [boundText_respelled hseparator hspelled, hbase, hmodified]⟩

/-- **Two spellings of a metric are answered alike exactly if filters ask for both or for neither**,
and apart from the time the same is recorded for both. -/
theorem addMetric_respelled_iff (options : DefinitionOptions) (changes : List Catalog.Change)
    (separator : Char) (rules : List String) (c : Collection σ)
    (hcatalog : c.catalog = (Catalog.ofOptions options).run changes)
    (hfilters : c.filters = ((Filters.History.start separator).addAllCompatible
      c.catalog.definitions rules).filters)
    (now now' : Instant) (value : Value) (modifiers : List Modifier) {text text' : String}
    {ns ns' : Namespace} {r : Resolution} (h : c.resolve text = .ok (ns, r))
    (hread : c.catalog.definitions.parse text' = .ok ns')
    (hspelled : Respelled r ns.elements ns'.elements) :
    let filters := (Filters.History.start separator).addAllCompatible c.catalog.definitions rules
    c.resolve text' = .ok (ns', r) ∧
    ((c.addMetric now text value modifiers).value.2 =
        (c.addMetric now' text' value modifiers).value.2 ↔
      (filters.Asks ns.elements ↔ filters.Asks ns'.elements)) ∧
    ∀ d d', (c.addMetric now text value modifiers).value = (d, .ok .added) →
      (c.addMetric now' text' value modifiers).value = (d', .ok .added) →
        ∃ m t, d = { c with metrics := c.metrics ++ [m] } ∧
          d' = { c with metrics := c.metrics ++ [{ m with timestamp := t }] } := by
  intro filters
  have hd : c.catalog.definitions.WellFormed := hcatalog ▸ Catalog.wellFormed_run options changes
  have hs : filters.Sound separator :=
    (Filters.History.sound_start separator).addAllCompatible _ rules
  have h' := resolve_respelled hd h hread hspelled
  have hseparator : ns'.separator = ns.separator := by
    rw [Namespace.separator_of_parse hread,
      Namespace.separator_of_parse (resolve_eq_ok_iff.mp h).1]
  have hasks : ∀ {text ns}, c.resolve text = .ok (ns, r) →
      (c.filters.accepts ns = true ↔ filters.Asks ns.elements) := fun hresolve => by
    rw [hfilters]
    refine hs.accepts_iff_asks fun e he => ?_
    have hconcrete := isConcreteElement_of_pathFlaw?_eq_none (resolve_eq_ok_iff.mp hresolve).2.1 e he
    cases e <;> simp_all [Namespace.isConcreteElement]
  refine ⟨h', ?_, fun d d' => metrics_respelled h h' hseparator hspelled⟩
  rw [answer_eq_iff h h' now now' modifiers, hasks h, hasks h']

/-- The rule names the group that the value belongs to, and both spellings are recorded. -/
theorem addMetric_respelled_added :
    let changes : List Catalog.Change := [.defineMetric "/p/a/[g]/m" {}, .defineMetric "/p/b/[h]/m" {}]
    let catalog := (Catalog.ofOptions {}).run changes
    let filters := (Filters.History.start '/').addAllCompatible catalog.definitions ["/p/*/[h=v]/m"]
    let c : Collection Unit :=
      { task := Task.ofObject "task" (.object []), catalog, filters := filters.filters }
    let r : Resolution := [none, none, some "h", none]
    let bare : Namespace := ⟨'/', [.name "p", .name "b", .name "v", .name "m"]⟩
    let bound : Namespace := ⟨'/', [.name "p", .name "b", .bound "h" "v", .name "m"]⟩
    c.resolve "/p/b/v/m" = .ok (bare, r) ∧ c.catalog.definitions.parse "/p/b/[h=v]/m" = .ok bound ∧
      Respelled r bare.elements bound.elements ∧
      ∃ m t, (c.addMetric ⟨1, 0⟩ "/p/b/v/m" (.int 1) []).value.1.metrics = [m] ∧
        (c.addMetric ⟨2, 0⟩ "/p/b/[h=v]/m" (.int 1) []).value.1.metrics =
          [{ m with timestamp := t }] := by
  intro changes catalog filters c r bare bound
  have h : c.resolve "/p/b/v/m" = .ok (bare, r) := rfl
  have hread : c.catalog.definitions.parse "/p/b/[h=v]/m" = .ok bound := rfl
  have hspelled : Respelled r bare.elements bound.elements :=
    .same none _ (.same none _ (.bind "h" "v" (.same none _ .nil)))
  refine ⟨h, hread, hspelled, ?_⟩
  obtain ⟨-, -, hmetrics⟩ := addMetric_respelled_iff {} changes '/' ["/p/*/[h=v]/m"] c rfl rfl
    ⟨1, 0⟩ ⟨2, 0⟩ (.int 1) [] h hread hspelled
  obtain ⟨m, t, hm, hm'⟩ := hmetrics (c.addMetric ⟨1, 0⟩ "/p/b/v/m" (.int 1) []).value.1
    (c.addMetric ⟨2, 0⟩ "/p/b/[h=v]/m" (.int 1) []).value.1 (Prod.ext rfl rfl) (Prod.ext rfl rfl)
  exact ⟨m, t, congrArg Collection.metrics hm, congrArg Collection.metrics hm'⟩

/-- Behind `b` the values belong to the group `h`, and yet the rule with `g` covers the bare one: it
is recorded, and the bound one is not. -/
theorem addMetric_bare_not_bound :
    let catalog := (Catalog.ofOptions {}).run
      [.defineMetric "/p/a/[g]/m" {}, .defineMetric "/p/b/[h]/m" {}]
    let filters := (Filters.History.start '/').addAllCompatible catalog.definitions ["/p/*/[g=v]/m"]
    let c : Collection Unit :=
      { task := Task.ofObject "task" (.object []), catalog, filters := filters.filters }
    let r : Resolution := [none, none, some "h", none]
    let bare : Namespace := ⟨'/', [.name "p", .name "b", .name "v", .name "m"]⟩
    let bound : Namespace := ⟨'/', [.name "p", .name "b", .bound "h" "v", .name "m"]⟩
    filters.accepted = ["/p/*/[g=v]/m"] ∧
      c.resolve "/p/b/v/m" = .ok (bare, r) ∧ c.resolve "/p/b/[h=v]/m" = .ok (bound, r) ∧
      Respelled r bare.elements bound.elements ∧
      (c.addMetric ⟨1, 0⟩ "/p/b/v/m" (.int 1) []).value.2 = .ok .added ∧
      (c.addMetric ⟨2, 0⟩ "/p/b/[h=v]/m" (.int 1) []).value.2 = .ok .filtered :=
  ⟨rfl, rfl, rfl, .same none _ (.same none _ (.bind "h" "v" (.same none _ .nil))), rfl, rfl⟩

end Collection

end Telemetry

import Telemetry.Proofs.Catalog.Metadata
import Telemetry.Proofs.Collection.Run

/-!
# What a recorded metric says about itself

What was told about a metric is kept under the text of its definition, and looked up under a text
that is written anew from what the metric was resolved to. The two are the same text
(`Definitions.key_eq_text`), and no other definition has it, so a metric says what was told about
the one definition that it follows (`addMetric_described`).

* `PathElement.Describes`: what a position of a metric says.
-/

namespace Telemetry

variable {elements path : List Element} {e defined : Element} {c : Catalog} {ns : Namespace}
  {r : Resolution}

/-! ## Positions -/

/-- The position of a metric says the value that is written there, and the group that is defined
there with its description; both are empty where a name is defined. -/
structure PathElement.Describes (description : String → String) (e defined : Element)
    (p : PathElement) : Prop where
  value : e.value? = some p.value
  group : p.group = defined.groupName?.getD ""
  description : p.description = (defined.groupName?.map description).getD ""

theorem describes_boundElement (h : e.Instantiates defined) :
    (boundElement c e defined.groupName?).Describes c.groupDescription e defined := by
  cases h <;> exact ⟨rfl, rfl, rfl⟩

theorem describes_boundPath (hinst : List.Forall₂ Element.Instantiates ns.elements path) :
    (boundPath c ns (path.map Element.groupName?)).length = ns.length ∧
      ∀ i e defined, ns.elements[i]? = some e → path[i]? = some defined →
        ∃ p, (boundPath c ns (path.map Element.groupName?)).at? i = some p ∧
          p.Describes c.groupDescription e defined := by
  constructor
  · rw [boundPath, MetricPath.length, List.length_map, List.length_zip, List.length_map,
      ← hinst.length_eq, Nat.min_self, Namespace.length]
  · intro i e defined he hdefined
    obtain ⟨hi, rfl⟩ := List.getElem?_eq_some_iff.mp he
    obtain ⟨hi', rfl⟩ := List.getElem?_eq_some_iff.mp hdefined
    refine ⟨_, ?_, describes_boundElement (hinst.get hi hi')⟩
    simp [boundPath, MetricPath.at?, hi, hi']

namespace Collection

/-! ## Units and descriptions -/

theorem baseMetric_unit_description (c : Catalog) (now : Instant) (ns : Namespace) (r : Resolution)
    (value : Value) :
    (baseMetric c now ns r value).unit = ((c.metric? (r.key ns)).map (·.unit)).getD "" ∧
      (baseMetric c now ns r value).description =
        ((c.metric? (r.key ns)).map (·.description)).getD "" := by
  unfold baseMetric
  cases c.metric? (r.key ns) <;> exact ⟨rfl, rfl⟩

theorem baseMetric_path (c : Catalog) (now : Instant) (ns : Namespace) (r : Resolution)
    (value : Value) : (baseMetric c now ns r value).path = boundPath c ns r := by
  unfold baseMetric
  cases c.metric? (r.key ns) <;> rfl

variable {σ : Type} {c d : Collection σ} {text : String}

theorem eq_of_added_plain (hread : c.catalog.definitions.parse text = .ok ns)
    (hresolve : c.catalog.definitions.resolve ns = some r)
    (hplain : c.registeredModifiers (boundText ns r) = []) {now : Instant} {value : Value}
    (hadded : (c.addMetric now text value []).value = (d, .ok .added)) :
    d = { c with metrics := c.metrics ++ [baseMetric c.catalog now ns r value] } := by
  obtain ⟨ns', r', h, -⟩ := answer_eq_added_iff.mp (congrArg Prod.snd hadded)
  obtain ⟨hread', -, hresolve'⟩ := resolve_eq_ok_iff.mp h
  cases hread.symm.trans hread'
  cases hresolve.symm.trans hresolve'
  obtain ⟨-, hd⟩ := (addMetric_eq_added_iff h now value []).mp hadded
  rw [hd, hplain]
  rfl

/-- **A metric is described by the definition that it follows**: at every position it says what is
written there and the group that is defined there, with the last description of that group; and its
unit and description are those of the one accepted definition with the text of its path, if there is
one. -/
theorem addMetric_described (options : DefinitionOptions) (changes : List Catalog.Change)
    (c : Collection σ) (hcatalog : c.catalog = (Catalog.ofOptions options).run changes)
    {text : String} {ns : Namespace} {r : Resolution}
    (hread : c.catalog.definitions.parse text = .ok ns)
    (hrule : c.catalog.definitions.resolveRule ns = some r)
    (hplain : c.registeredModifiers (boundText ns r) = []) (now : Instant) (value : Value)
    {d : Collection σ} (hadded : (c.addMetric now text value []).value = (d, .ok .added)) :
    let accepted := (Catalog.ofOptions options).accepted changes
    let h : Definitions.History := ⟨c.catalog.definitions, accepted.map Prod.fst⟩
    ∃ m path, d = { c with metrics := c.metrics ++ [m] } ∧
      (h.Offers path ∧ List.Forall₂ Element.Instantiates ns.elements path ∧
        ∀ path', h.Offers path' → List.Forall₂ Element.Instantiates ns.elements path' →
          path' = path) ∧
      m.path.length = ns.length ∧
      (∀ i e defined, ns.elements[i]? = some e → path[i]? = some defined →
        ∃ p, m.path.at? i = some p ∧ p.Describes (Catalog.lastDescription changes) e defined) ∧
      (accepted.map Prod.fst).Nodup ∧
      (∀ info, (Namespace.text ⟨options.separator, path⟩, info) ∈ accepted →
        m.unit = info.unit ∧ m.description = info.description) ∧
      (Namespace.text ⟨options.separator, path⟩ ∉ accepted.map Prod.fst →
        m.unit = "" ∧ m.description = "") := by
  intro accepted h
  have hdocumented : Catalog.Documented options.separator c.catalog accepted :=
    hcatalog ▸ Catalog.documented_run options changes
  have hs : h.Sound options.separator := hdocumented.sound
  have hgroups : c.catalog.groupDescription = Catalog.lastDescription changes :=
    hcatalog ▸ funext (Catalog.groupDescription_run options changes)
  have hne : ns.elements ≠ [] := Namespace.elements_ne_nil_of_parse hread
  have hseparator : ns.separator = options.separator :=
    (Namespace.separator_of_parse hread).trans hs.separator_eq
  obtain ⟨path, hoffer, hinst, rfl⟩ :=
    (Definitions.resolveRule_eq_some_iff hs.wellFormed hne).mp hrule
  have hoffer : h.Offers path := hs.offers_iff.mpr hoffer
  -- However the values are spelled, the text that is looked up is that of the path.
  have hkey : Resolution.key (path.map Element.groupName?) ns =
      Namespace.text ⟨options.separator, path⟩ := hseparator ▸ Definitions.key_eq_text hinst
  have hd := eq_of_added_plain hread (hs.resolve_of_offers hoffer hinst) hplain hadded
  obtain ⟨hunit, hdescription⟩ :=
    baseMetric_unit_description c.catalog now ns (path.map Element.groupName?) value
  obtain ⟨hlength, hpositions⟩ := describes_boundPath (c := c.catalog) hinst
  rw [hkey] at hunit hdescription
  refine ⟨_, path, hd, ⟨hoffer, hinst, fun path' hoffer' hinst' =>
    hs.eq_of_offers hoffer' hoffer hinst' hinst⟩, ?_, ?_, hdocumented.nodup, ?_, ?_⟩
  · rw [baseMetric_path, hlength]
  · rw [baseMetric_path, ← hgroups]
    exact hpositions
  · intro info hinfo
    have hkept := (hdocumented.metric?_eq_some_iff _ info).mpr hinfo
    rw [hunit, hdescription, hkept]
    exact ⟨rfl, rfl⟩
  · intro hnone
    have hkept : c.catalog.metric? (Namespace.text ⟨options.separator, path⟩) = none :=
      Option.eq_none_iff_forall_ne_some.mpr fun info hinfo =>
        hnone (List.mem_map_of_mem ((hdocumented.metric?_eq_some_iff _ info).mp hinfo))
    rw [hunit, hdescription, hkept]
    exact ⟨rfl, rfl⟩

/-- The value is bound to the group as it was described last, and the metric ends on an inner level,
about which nothing was told. -/
theorem addMetric_described_inner :
    let changes : List Catalog.Change := [.defineGroup "g" "old", .allowAnyLevel,
      .defineMetric "/p/[g]/m" ⟨"s", true, "told"⟩, .defineGroup "g" "new"]
    let c : Collection Unit :=
      { task := Task.ofObject "task" (.object []), catalog := (Catalog.ofOptions {}).run changes,
        filters := {} }
    ∃ m, (c.addMetric ⟨1, 0⟩ "/p/v" (.int 1) []).value.1.metrics = [m] ∧
      m.path.at? 1 = some ⟨"g", "v", "new"⟩ ∧ m.unit = "" := by
  intro changes c
  have hread : c.catalog.definitions.parse "/p/v" = .ok ⟨'/', [.name "p", .name "v"]⟩ := rfl
  have hrule : c.catalog.definitions.resolveRule ⟨'/', [.name "p", .name "v"]⟩ =
      some [none, some "g"] := rfl
  have hadded : (c.addMetric ⟨1, 0⟩ "/p/v" (.int 1) []).value =
      ((c.addMetric ⟨1, 0⟩ "/p/v" (.int 1) []).value.1, .ok .added) := Prod.ext rfl rfl
  obtain ⟨m, path, hd, ⟨-, -, hunique⟩, -, hpositions, -, -, hempty⟩ :=
    addMetric_described {} changes c rfl hread hrule rfl ⟨1, 0⟩ (.int 1) hadded
  obtain rfl : [.name "p", .group "g"] = path :=
    hunique _ ⟨"/p/[g]/m", [.name "p", .group "g", .name "m"], ⟨by decide +kernel, rfl⟩,
      .inr ⟨rfl, by simp, by simp [List.cons_prefix_cons]⟩⟩
      (.cons (.name _) (.cons (.value _ _) .nil))
  obtain ⟨⟨group, value, description⟩, hp, hsaid⟩ := hpositions 1 _ _ rfl rfl
  obtain rfl : "v" = value := Option.some.inj hsaid.value
  obtain rfl : group = "g" := hsaid.group
  obtain rfl : description = "new" := hsaid.description
  exact ⟨m, congrArg metrics hd, hp, (hempty (by decide +kernel)).1⟩

end Collection

end Telemetry

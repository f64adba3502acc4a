import Telemetry.Proofs.Collection.Description
import Telemetry.Proofs.Collection.Selection
import Telemetry.Proofs.Collection.Spelling

/-!
# Metrics without a definition

Where undefined metrics are accepted, a metric may follow no definition at all. It is then bound to
no group, and what it says about itself is looked up under the text of its bare values
(`key_of_undefined`). With bare values only, the metric would follow the definition that has this
text, so there is none. But a value that is bound to some other group is bare in this text, too, and
then the metric says what was told about a definition that it does not follow
(`addMetric_undefined`).

* `Namespace.bareText`: a path with all its values bare.
-/

namespace Telemetry

variable {ns : Namespace} {r : Resolution}

/-- The path without the groups that its values are bound to. -/
def Namespace.bareText (ns : Namespace) : String :=
  Namespace.text ⟨ns.separator, ns.elements.map Element.plain⟩

theorem Element.plain_eq_name {e : Element} (he : Namespace.isConcreteElement false e = true) :
    e.plain = .name (e.value?.getD "") := by
  cases e with
  | name v => rfl
  | bound g v => rfl
  | _ => cases he

theorem Element.plain_eq_self {e : Element} (he : e.isDynamic = false) : e.plain = e := by
  cases e with
  | bound g v => cases he
  | _ => rfl

theorem Namespace.bareText_of_parse {separator : Char} {text : String}
    (hread : Namespace.parse separator false text = .ok ns)
    (hbare : ∀ e ∈ ns.elements, e.isDynamic = false) : ns.bareText = text := by
  have hsame : ∀ e ∈ ns.elements, e.plain = e := fun e he => Element.plain_eq_self (hbare e he)
  rw [bareText, List.map_congr_left hsame, List.map_id']
  exact Namespace.text_of_parse hread

/-! ## What an undefined metric resolves to -/

namespace Definitions

variable {d : Definitions}

theorem eq_of_undefined (hrule : d.resolveRule ns = none) (hresolve : d.resolve ns = some r) :
    r = ns.elements.map fun _ => none := by
  rw [resolve, hrule, Option.none_or] at hresolve
  split_ifs at hresolve <;> exact (Option.some.inj hresolve).symm

theorem History.Sound.resolveRule_eq_none_iff {h : History} {separator : Char}
    (hs : h.Sound separator) (hne : ns.elements ≠ []) : h.definitions.resolveRule ns = none ↔
      ∀ path, h.Offers path → ¬ List.Forall₂ Element.Instantiates ns.elements path := by
  rw [Option.eq_none_iff_forall_ne_some]
  simp only [ne_eq, resolveRule_eq_some_iff hs.wellFormed hne, hs.offers_iff]
  constructor
  · intro hnone path hoffer hinst
    exact hnone _ ⟨path, hoffer, hinst, rfl⟩
  · rintro hfree r ⟨path, hoffer, hinst, -⟩
    exact hfree path hoffer hinst

end Definitions

/-! ## What is written for it -/

section

variable (h : ∀ e ∈ ns.elements, Namespace.isConcreteElement false e = true)

include h

theorem zip_map_none {of : Element → Option String → Element}
    (hof : ∀ e, of e none = .name (e.value?.getD "")) :
    ((ns.elements.zip (ns.elements.map fun _ => none)).map fun (e, group) => of e group) =
      ns.elements.map Element.plain := by
  rw [← List.map_prod_left_eq_zip, List.map_map]
  exact List.map_congr_left fun e he => (hof e).trans (Element.plain_eq_name (h e he)).symm

theorem boundText_of_undefined :
    boundText ns (ns.elements.map fun _ => none) = ns.bareText := by
  rw [boundText_eq_text, Namespace.bindTo, zip_map_none h fun _ => rfl, Namespace.bareText]

theorem key_of_undefined : Resolution.key (ns.elements.map fun _ => none) ns = ns.bareText := by
  rw [key_eq_text_definedBy, Namespace.definedBy, zip_map_none h fun _ => rfl, Namespace.bareText]

theorem forall₂_instantiates_self (hbare : ∀ e ∈ ns.elements, e.isDynamic = false) :
    List.Forall₂ Element.Instantiates ns.elements ns.elements := by
  refine List.forall₂_same.mpr fun e he => ?_
  rw [← Element.plain_eq_self (hbare e he), Element.plain_eq_name (h e he)]
  exact .name _

end

namespace Collection

theorem baseMetric_blank_iff (c : Catalog) (now : Instant) (ns : Namespace) (r : Resolution)
    (value : Value) :
    ((baseMetric c now ns r value).unit = "" ∧ (baseMetric c now ns r value).description = "") ↔
      ∀ info, c.metric? (r.key ns) = some info → info.unit = "" ∧ info.description = "" := by
  obtain ⟨hunit, hdescription⟩ := baseMetric_unit_description c now ns r value
  rw [hunit, hdescription]
  cases c.metric? (r.key ns) <;> simp

/-- **A metric that follows no definition says what was told about the definition that its bare
values spell**: it has no unit and no description exactly if there is no such definition or nothing
was told about it, and there is none if all of its values are bare. -/
theorem addMetric_undefined {σ : Type} (options : DefinitionOptions)
    (changes : List Catalog.Change) (c : Collection σ)
    (hcatalog : c.catalog = (Catalog.ofOptions options).run changes)
    {text : String} {ns : Namespace} (hread : c.catalog.definitions.parse text = .ok ns)
    (hfree : ∀ path, (⟨c.catalog.definitions,
      ((Catalog.ofOptions options).accepted changes).map Prod.fst⟩ : Definitions.History).Offers
        path → ¬ List.Forall₂ Element.Instantiates ns.elements path)
    (hplain : c.registeredModifiers ns.bareText = []) (now : Instant) (value : Value)
    {d : Collection σ} (hadded : (c.addMetric now text value []).value = (d, .ok .added)) :
    let accepted := (Catalog.ofOptions options).accepted changes
    ∃ m, d = { c with metrics := c.metrics ++ [m] } ∧
      ((m.unit = "" ∧ m.description = "") ↔
        ∀ info, (ns.bareText, info) ∈ accepted → info.unit = "" ∧ info.description = "") ∧
      (∀ info, (ns.bareText, info) ∈ accepted →
        m.unit = info.unit ∧ m.description = info.description) ∧
      ((∀ e ∈ ns.elements, e.isDynamic = false) → ns.bareText ∉ accepted.map Prod.fst) := by
  intro accepted
  have hdocumented : Catalog.Documented options.separator c.catalog accepted :=
    hcatalog ▸ Catalog.documented_run options changes
  have hs := hdocumented.sound
  have hne : ns.elements ≠ [] := Namespace.elements_ne_nil_of_parse hread
  obtain ⟨ns', r, h, -⟩ := answer_eq_added_iff.mp (congrArg Prod.snd hadded)
  obtain ⟨hread', hflaw, hresolve⟩ := resolve_eq_ok_iff.mp h
  cases hread.symm.trans hread'
  have hconcrete := isConcreteElement_of_pathFlaw?_eq_none hflaw
  obtain rfl : r = ns.elements.map fun _ => none :=
    Definitions.eq_of_undefined ((hs.resolveRule_eq_none_iff hne).mpr hfree) hresolve
  have hd := eq_of_added_plain hread hresolve
    ((boundText_of_undefined hconcrete).symm ▸ hplain) hadded
  refine ⟨_, hd, ?_, fun info hinfo => ?_, fun hbare hmem => ?_⟩
  · rw [baseMetric_blank_iff, key_of_undefined hconcrete]
    simp only [hdocumented.metric?_eq_some_iff]
  · obtain ⟨hunit, hdescription⟩ :=
      baseMetric_unit_description c.catalog now ns (ns.elements.map fun _ => none) value
    have hkept := (hdocumented.metric?_eq_some_iff _ info).mpr hinfo
    rw [hunit, hdescription, key_of_undefined hconcrete, hkept]
    exact ⟨rfl, rfl⟩
  · -- The text is that of the metric, which then follows the definition that is read from it.
    rw [Namespace.bareText_of_parse hread hbare] at hmem
    have hrule : (⟨c.catalog.definitions, accepted.map Prod.fst⟩ : Definitions.History).HasRule
        text ns.elements := ⟨hmem, hread.trans (by rw [← Namespace.separator_of_parse hread])⟩
    exact hfree _ hrule.offers (forall₂_instantiates_self hconcrete hbare)

/-- Nothing is told about a metric with a value that no definition has. -/
theorem addMetric_undefined_unknown :
    let changes : List Catalog.Change :=
      [.allowUndefinedMetrics, .defineMetric "/p/a/m" ⟨"s", true, "told"⟩]
    let c : Collection Unit :=
      { task := Task.ofObject "task" (.object []), catalog := (Catalog.ofOptions {}).run changes,
        filters := {} }
    ∃ m, (c.addMetric ⟨1, 0⟩ "/p/[g=x]/m" (.int 1) []).value.1.metrics = [m] ∧
      m.unit = "" ∧ m.description = "" := by
  intro changes c
  have hread : c.catalog.definitions.parse "/p/[g=x]/m" =
      .ok ⟨'/', [.name "p", .bound "g" "x", .name "m"]⟩ := rfl
  have hs := (Catalog.documented_run {} changes).sound
  have hfree := (hs.resolveRule_eq_none_iff (Namespace.elements_ne_nil_of_parse hread)).mp rfl
  have hadded : (c.addMetric ⟨1, 0⟩ "/p/[g=x]/m" (.int 1) []).value =
      ((c.addMetric ⟨1, 0⟩ "/p/[g=x]/m" (.int 1) []).value.1, .ok .added) := Prod.ext rfl rfl
  obtain ⟨m, hd, hempty, -⟩ :=
    addMetric_undefined {} changes c rfl hread hfree rfl ⟨1, 0⟩ (.int 1) hadded
  have haccepted : (Catalog.ofOptions {}).accepted changes =
      [("/p/a/m", ⟨"s", true, "told"⟩)] := rfl
  refine ⟨m, congrArg metrics hd, hempty.mpr fun info hinfo => ?_⟩
  rw [haccepted, List.mem_singleton, Prod.mk.injEq] at hinfo
  exact absurd hinfo.1 (by decide)

/-- The metric follows no definition, since none has the group to which the value is bound; but it
says what was told about the metric with the same bare value. -/
theorem addMetric_undefined_told :
    let changes : List Catalog.Change :=
      [.allowUndefinedMetrics, .defineMetric "/p/a/m" ⟨"s", true, "told"⟩]
    let c : Collection Unit :=
      { task := Task.ofObject "task" (.object []), catalog := (Catalog.ofOptions {}).run changes,
        filters := {} }
    let ns : Namespace := ⟨'/', [.name "p", .bound "g" "a", .name "m"]⟩
    c.catalog.definitions.options.undefinedMetrics = true ∧ c.registrations = [] ∧
      c.catalog.definitions.parse "/p/[g=a]/m" = .ok ns ∧
      (∀ path, (⟨c.catalog.definitions,
        ((Catalog.ofOptions {}).accepted changes).map Prod.fst⟩ : Definitions.History).Offers path →
          ¬ List.Forall₂ Element.Instantiates ns.elements path) ∧
      (c.addMetric ⟨1, 0⟩ "/p/[g=a]/m" (.int 1) []).value.2 = .ok .added ∧
      ∃ m, (c.addMetric ⟨1, 0⟩ "/p/[g=a]/m" (.int 1) []).value.1.metrics = [m] ∧
        m.unit = "s" ∧ m.description = "told" := by
  intro changes c ns
  have hread : c.catalog.definitions.parse "/p/[g=a]/m" = .ok ns := rfl
  have hs := (Catalog.documented_run {} changes).sound
  have hfree := (hs.resolveRule_eq_none_iff (Namespace.elements_ne_nil_of_parse hread)).mp rfl
  exact ⟨rfl, rfl, hread, hfree, rfl, _, rfl, rfl, rfl⟩

end Collection

end Telemetry

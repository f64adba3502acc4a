import Telemetry.Proofs.Catalog
import Telemetry.Proofs.Registry.Busy
import Telemetry.Proofs.Registry.Loading
import Telemetry.Proofs.Rule.Admission

/-!
# What tasks receive by their rules

Rules that do not fit the definitions are skipped, and the others are the filters of the task. As
long as one rule is left, a task receives only what one of its rules asks for. If all are skipped,
the filters are empty and ask for everything: skipping narrows what a task receives, rule by rule,
until the last rule is gone (`Machine.added_iff_requested`).

* `Filters.fits`: whether a rule is kept.
* `Filters.accepts_addAllCompatible_iff`: what the filters of the rules that are kept ask for.
-/

namespace Telemetry

open Log

/-- Whether a rule can be kept beside some definitions. -/
def Filters.fits (d : Definitions) (rule : String) : Bool :=
  (Filters.compatibleRule { separator := d.options.separator } d rule).toBool

variable {d : Definitions} {rules : List String} {rule : String} {ns : Namespace}

/-! ## Rules that are kept -/

theorem Filters.fits_eq_isNone (d : Definitions) (rule : String) :
    Filters.fits d rule = (Filters.refusal? d rule).isNone := by
  rw [fits, refusal?, addCompatibleRule]
  cases Filters.compatibleRule { separator := d.options.separator } d rule <;> rfl

theorem Filters.History.accepted_addAllCompatible {h : Filters.History}
    (hseparator : h.filters.separator = d.options.separator) (rules : List String) :
    (h.addAllCompatible d rules).accepted = h.accepted ++ rules.filter (Filters.fits d) := by
  rw [accepted_addAllCompatible_eq hseparator]
  simp only [← Filters.fits_eq_isNone]

/-- Without strictness, rules are read by keeping those that fit and skipping the others. -/
theorem Registry.addRules_eq (id : String) (hall : requestAll ∉ rules) {h : Filters.History}
    (hseparator : h.filters.separator = d.options.separator) :
    ∃ skipped, (addRules d false id h.filters rules).value =
        .ok ((h.addAllCompatible d rules).filters, skipped) ∧
      skipped.length = (rules.filter fun rule => !Filters.fits d rule).length := by
  have hasked : asked rules = rules :=
    List.filter_eq_self.mpr fun rule hrule => by simpa using ne_of_mem_of_not_mem hrule hall
  have hread := value_addRules hseparator false id rules
  rw [hasked] at hread
  refine ⟨rules.filterMap (Filters.refusal? d), hread, ?_⟩
  simp only [List.length_filterMap_eq_countP, List.countP_eq_length_filter,
    Filters.fits_eq_isNone, Option.not_isNone]

/-! ## What the rules ask for -/

namespace Filters

/-- A rule asks for a path on its own: filters that hold this rule only admit the path. -/
def Asks (separator : Char) (rule : String) (ns : Namespace) : Prop :=
  ∃ alone, Filters.addRule { separator } rule = .ok alone ∧ alone.accepts ns = true

theorem asks_iff (hns : ∀ e ∈ ns.elements, Namespace.isConcreteElement true e = true)
    (separator : Char) (rule : String) : Asks separator rule ns ↔
      ∃ path, Namespace.parse separator true rule = .ok ⟨separator, path⟩ ∧
        Namespace.covers path ns.elements = true := by
  have hs := (History.sound_start separator).add rule
  have haccepts := hs.accepts_iff hns
  cases hparse : Namespace.parse separator true rule with
  | error e =>
    have hadd : Filters.addRule { separator } rule = .error (.ruleSyntax rule e) := by
      rw [addRule, parseRule, hparse]
      rfl
    refine iff_of_false ?_ ?_
    · rintro ⟨alone, halone, -⟩
      rw [hadd] at halone
      cases halone
    · rintro ⟨path, hpath, -⟩
      cases hpath
  | ok read =>
    obtain rfl : read.separator = separator := Namespace.separator_of_parse hparse
    have hadd : Filters.addRule { separator := read.separator } rule =
        .ok (insert { separator := read.separator } rule read).value := by
      rw [addRule, parseRule, hparse]
      rfl
    have hhistory : (History.start read.separator).add rule =
        ⟨(insert { separator := read.separator } rule read).value, [rule]⟩ := by
      show History.attempt _ rule (Filters.addRule { separator := read.separator } rule) = _
      rw [hadd]
      rfl
    rw [hhistory] at haccepts
    simp only [List.cons_ne_nil, false_or, List.mem_singleton, exists_eq_left, hparse] at haccepts
    rw [← haccepts]
    constructor
    · rintro ⟨alone, halone, hasked⟩
      cases hadd.symm.trans halone
      exact hasked
    · exact fun hasked => ⟨_, hadd, hasked⟩

theorem accepts_addAllCompatible_iff
    (hns : ∀ e ∈ ns.elements, Namespace.isConcreteElement true e = true) :
    ((History.start d.options.separator).addAllCompatible d rules).filters.accepts ns = true ↔
      rules.filter (fits d) = [] ∨
        ∃ rule ∈ rules, fits d rule = true ∧ Asks d.options.separator rule ns := by
  have hs := (History.sound_start d.options.separator).addAllCompatible d rules
  have haccepted : ((History.start d.options.separator).addAllCompatible d rules).accepted =
      rules.filter (fits d) :=
    (History.accepted_addAllCompatible rfl rules).trans (List.nil_append _)
  rw [hs.accepts_iff hns, haccepted]
  simp only [asks_iff hns, List.mem_filter, and_assoc]

end Filters

/-! ## What tasks receive -/

namespace Machine

variable {σ ρ : Type}

theorem Sound.gives {terms : Catalog × Bool} {m : Machine σ} (h : m.Sound terms) {f : Frame σ}
    (hf : f ∈ m.frames) : ∃ load, f.load = some load ∧ load.Gives terms f.id f.entry := by
  have hagrees := h.frames f hf
  obtain ⟨load, hload, hgives⟩ := h.origin f.id f.entry hagrees.shown_eq
  exact ⟨load, by rw [← hagrees.load_eq, hload], hgives⟩

/-- **A task that asked for something in particular receives what a rule of it asks for on its
own**, unless all its rules were skipped: then it receives everything. -/
theorem added_iff_requested (catalog : Catalog) (moves : List (Move σ ρ)) {f : Frame σ}
    {load : Load}
    (hf : f ∈ (run { registry := { catalog, strict := false } } moves).frames)
    (hload : f.load = some load) (hall : requestAll ∉ load.rules)
    {text : String} {ns : Namespace} {r : Resolution}
    (hresolve : f.collection.resolve text = .ok (ns, r)) (now : Instant) (value : Value)
    (modifiers : List Modifier) :
    (f.collection.addMetric now text value modifiers).value.2 = .ok .added ↔
      load.report.skipped.length = load.rules.length ∨
        ∃ rule ∈ load.rules, Filters.fits catalog.definitions rule = true ∧
          Filters.Asks catalog.options.separator rule ns := by
  have hs : (run { registry := { catalog, strict := false } } moves).Sound (catalog, false) :=
    (sound_start catalog false).run moves
  obtain ⟨load', hload', -, hread⟩ := hs.gives hf
  obtain rfl : load = load' := Option.some.inj (hload.symm.trans hload')
  obtain ⟨skipped, hrules, hskipped⟩ := Registry.addRules_eq f.id hall
    (h := Filters.History.start catalog.options.separator) rfl
  have hmade := Except.ok.inj (hrules.symm.trans hread)
  have hfilters : ((Filters.History.start catalog.options.separator).addAllCompatible
      catalog.definitions load.rules).filters = f.collection.filters :=
    (congrArg Prod.fst hmade).trans (Collection.filters_eq (hs.frames f hf).scope_eq).symm
  have hcount : load.report.skipped.length =
      (load.rules.filter fun rule => !Filters.fits catalog.definitions rule).length :=
    (congrArg List.length (congrArg Prod.snd hmade)).symm.trans hskipped
  have hns : ∀ e ∈ ns.elements, Namespace.isConcreteElement true e = true := fun e he => by
    have hconcrete := isConcreteElement_of_pathFlaw?_eq_none
      (Collection.resolve_eq_ok_iff.mp hresolve).2.1 e he
    cases e <;> simp_all [Namespace.isConcreteElement]
  have hadded : (f.collection.addMetric now text value modifiers).value.2 = .ok .added ↔
      f.collection.filters.accepts ns = true := by
    rw [Collection.addMetric_of_resolve hresolve]
    cases f.collection.filters.accepts ns <;> simp
  have hnone : load.rules.filter (Filters.fits catalog.definitions) = [] ↔
      load.report.skipped.length = load.rules.length := by
    rw [hcount, ← List.length_eq_zero_iff,
      List.length_eq_length_filter_add (Filters.fits catalog.definitions) (l := load.rules)]
    omega
  rw [hadded, ← hfilters, ← hnone]
  exact Filters.accepts_addAllCompatible_iff hns

/-- One of two rules is skipped, and the other one is what the task receives. -/
theorem added_iff_requested_skipped :
    let catalog := (Catalog.ofOptions {}).run [.defineMetric "/p/[g]/m" {}]
    let hook : Hook Unit Unit := fun task => (task.state, ⟨(), none⟩)
    let moves : List (Move Unit Unit) :=
      [.ask (.load "t" .null ["/q/x", "/p/[g]/*"] hook), .enter "t"]
    let m := run { registry := { catalog, strict := false } } moves
    ∃ f ∈ m.frames, ∃ load, f.load = some load ∧ requestAll ∉ load.rules ∧
      f.collection.resolve "/p/v/m" =
        .ok (⟨'/', [.name "p", .name "v", .name "m"]⟩, [none, some "g", none]) ∧
      (f.collection.addMetric ⟨1, 0⟩ "/p/v/m" (.int 1) []).value.2 = .ok .added := by
  intro catalog hook moves m
  have hall : requestAll ∉ ["/q/x", "/p/[g]/*"] := by decide
  refine ⟨_, List.mem_cons_self, _, rfl, hall, rfl, ?_⟩
  refine (added_iff_requested catalog moves List.mem_cons_self rfl hall rfl ⟨1, 0⟩ (.int 1)
    []).mpr ?_
  exact .inr ⟨"/p/[g]/*", by decide, by decide +kernel, _, rfl, rfl⟩

/-- The only rule is skipped, and the task receives what it did not ask for. -/
theorem added_unrequested :
    let catalog := (Catalog.ofOptions {}).run [.defineMetric "/p/a/m" {}]
    let hook : Hook Unit Unit := fun task => (task.state, ⟨(), none⟩)
    let moves : List (Move Unit Unit) := [.ask (.load "t" .null ["/q/x"] hook), .enter "t"]
    let m := run { registry := { catalog, strict := false } } moves
    ∃ f ∈ m.frames, ∃ load, f.load = some load ∧ load.rules ≠ [] ∧ requestAll ∉ load.rules ∧
      catalog.definitions.parse "/p/a/m" = .ok ⟨'/', [.name "p", .name "a", .name "m"]⟩ ∧
      (f.collection.addMetric ⟨1, 0⟩ "/p/a/m" (.int 1) []).value.2 = .ok .added ∧
      ∀ rule ∈ load.rules, ¬ Filters.Asks '/' rule ⟨'/', [.name "p", .name "a", .name "m"]⟩ := by
  intro catalog hook moves m
  have hall : requestAll ∉ ["/q/x"] := by decide
  refine ⟨_, List.mem_cons_self, _, rfl, by simp, hall, rfl, rfl, fun rule hrule => ?_⟩
  rintro ⟨alone, halone, hasked⟩
  rw [List.mem_singleton.mp hrule] at halone
  cases halone
  exact absurd hasked (by decide +kernel)

end Machine

end Telemetry

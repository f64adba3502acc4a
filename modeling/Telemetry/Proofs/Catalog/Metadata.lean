import Mathlib.Data.List.Sort
import Telemetry.Proofs.Catalog

/-!
# What a catalog tells about its metrics

A catalog keeps the tree of its rules and, apart from it, what was told about each metric, by the
text of its rule. The two stay in step through every run: a text is accepted once at most, because a
rule conflicts with itself, and it is listed as it was given. So what is kept under a text is what
the one call said that accepted it (`listMetrics_run`).

* `Catalog.accepted`: the metrics that a run adds, with what is told about them.
* `Catalog.Documented`: a catalog in step with the metrics that it has accepted.
* `Catalog.lastDescription`: what was last said about a group.
-/

namespace Telemetry.Catalog

open Definitions (History)

/-! ## What a run accepts -/

/-- The metric that a change adds to the catalog, if it does. -/
def accepted? (c : Catalog) : Change → Option (String × MetricInfo)
  | .defineMetric rule info =>
    match (c.defineMetric rule info).value with
    | .ok _ => some (rule, info)
    | .error _ => none
  | _ => none

/-- The metrics that are added along a run, in the order in which they come. -/
def accepted (c : Catalog) : List Change → List (String × MetricInfo)
  | [] => []
  | change :: changes => (c.accepted? change).toList ++ (c.step change).accepted changes

theorem accepted?_defineMetric (c : Catalog) (rule : String) (info : MetricInfo) :
    c.accepted? (.defineMetric rule info) =
      match c.definitions.addRule rule with
      | .ok _ => some (rule, info)
      | .error _ => none := by
  simp only [accepted?, defineMetric, withMetric]
  cases c.definitions.addRule rule <;> rfl

/-! ## The tree and the metadata -/

/-- The tree holds the rules that were accepted, each of them once, and what is kept under a text is
what was told when it was accepted. -/
structure Documented (separator : Char) (c : Catalog) (accepted : List (String × MetricInfo)) :
    Prop where
  sound : (⟨c.definitions, accepted.map Prod.fst⟩ : History).Sound separator
  nodup : (accepted.map Prod.fst).Nodup
  metric?_eq_some_iff : ∀ rule info, c.metric? rule = some info ↔ (rule, info) ∈ accepted

variable {c : Catalog} {separator : Char} {accepted : List (String × MetricInfo)}

theorem documented_start (options : DefinitionOptions) :
    Documented options.separator (ofOptions options) [] where
  sound := Definitions.History.sound_start options
  nodup := .nil
  metric?_eq_some_iff _ _ := iff_of_false nofun List.not_mem_nil

namespace Documented

variable (h : Documented separator c accepted)

include h

theorem accept {rule : String} (info : MetricInfo) {d : Definitions}
    (hadd : c.definitions.addRule rule = .ok d) :
    Documented separator { c with definitions := d, metrics := c.metrics.insert rule info }
      (accepted ++ [(rule, info)]) := by
  -- The text was not accepted before, so nothing that is kept is replaced.
  have hnew : rule ∉ accepted.map Prod.fst := h.sound.not_mem_accepted hadd
  refine ⟨?_, ?_, fun other found => ?_⟩
  · rw [List.map_append]
    exact h.sound.accept hadd
  · rw [List.map_append]
    exact List.nodup_append_comm.mp (List.nodup_cons.mpr ⟨hnew, h.nodup⟩)
  · have hlookup : (c.metrics.insert rule info).get? other =
        if rule = other then some info else c.metric? other := SortedMap.get?_insert ..
    rw [metric?, hlookup, List.mem_append, List.mem_singleton, Prod.mk.injEq]
    split_ifs with hrule
    · subst hrule
      have hold : (rule, found) ∉ accepted := fun hmem => hnew (List.mem_map_of_mem hmem)
      simp [hold, eq_comm]
    · simp [h.metric?_eq_some_iff, Ne.symm hrule]

theorem withOptions {options : DefinitionOptions} (hkeeps : options.separator = separator) :
    Documented separator (c.withOptions options) accepted where
  sound := ⟨hkeeps, h.sound.holds, h.sound.wellFormed.setOptions options⟩
  nodup := h.nodup
  metric?_eq_some_iff := h.metric?_eq_some_iff

theorem step (change : Change) :
    Documented separator (c.step change) (accepted ++ (c.accepted? change).toList) := by
  have hsame : ∀ options : DefinitionOptions, options.separator = c.options.separator →
      Documented separator (c.withOptions options) (accepted ++ []) := fun options hkeeps => by
    rw [List.append_nil]
    exact h.withOptions (hkeeps.trans h.sound.separator_eq)
  cases change with
  | defineMetric rule info =>
    rw [step_defineMetric, accepted?_defineMetric]
    cases hadd : c.definitions.addRule rule with
    | ok d => exact h.accept info hadd
    | error e => simpa using h
  | defineGroup name description =>
    have hgroups : Documented separator (c.defineGroup name description) accepted :=
      ⟨h.sound, h.nodup, h.metric?_eq_some_iff⟩
    exact (List.append_nil accepted).symm ▸ hgroups
  | allowDynamicLast => exact hsame _ rfl
  | allowUndefinedMetrics => exact hsame _ rfl
  | allowAnyLevel => exact hsame _ rfl

theorem run (changes : List Change) :
    Documented separator (c.run changes) (accepted ++ c.accepted changes) := by
  induction changes generalizing c accepted with
  | nil =>
    rw [Catalog.accepted, List.append_nil]
    exact h
  | cons change changes ih =>
    rw [Catalog.accepted, ← List.append_assoc]
    exact ih (h.step change)

/-! ## Listing -/

theorem mem_listMetrics_iff {rule : String} :
    rule ∈ c.listMetrics ↔ rule ∈ accepted.map Prod.fst := by
  have hholds := h.sound.holds
  rw [listMetrics, Definitions.listRules, ← options, options, h.sound.separator_eq]
  exact hholds.mem_rules_iff

theorem pairwise_lt_listMetrics : c.listMetrics.Pairwise (· < ·) := by
  rw [listMetrics, Definitions.listRules, h.sound.separator_eq]
  exact h.sound.holds.pairwise_lt_rules

theorem keys_eq_listMetrics : c.metrics.keys = c.listMetrics := by
  refine List.Pairwise.eq_of_mem_iff c.metrics.pairwise_lt_keys h.pairwise_lt_listMetrics ?_
  intro rule
  rw [SortedMap.mem_keys_iff, h.mem_listMetrics_iff, List.mem_map]
  constructor
  · rintro ⟨info, hinfo⟩
    exact ⟨(rule, info), (h.metric?_eq_some_iff rule info).mp hinfo, rfl⟩
  · rintro ⟨⟨_, info⟩, hmem, rfl⟩
    exact ⟨info, (h.metric?_eq_some_iff _ info).mpr hmem⟩

theorem listDefaultMetrics_eq : c.listDefaultMetrics =
    c.listMetrics.filter fun rule => accepted.any fun a => a.1 == rule && a.2.isDefault := by
  rw [← h.keys_eq_listMetrics, SortedMap.keys, List.filter_map, listDefaultMetrics]
  congr 1
  refine List.filter_congr ?_
  rintro ⟨rule, info⟩ hentry
  have hinfo : c.metric? rule = some info := SortedMap.get?_eq_some_iff.mpr hentry
  rw [Bool.eq_iff_iff, Function.comp_apply, List.any_eq_true]
  constructor
  · intro hdefault
    exact ⟨(rule, info), (h.metric?_eq_some_iff rule info).mp hinfo, by simpa using hdefault⟩
  · rintro ⟨⟨other, told⟩, hmem, htold⟩
    obtain ⟨rfl, hdefault⟩ : other = rule ∧ told.isDefault = true := by simpa using htold
    cases hinfo.symm.trans ((h.metric?_eq_some_iff other told).mpr hmem)
    exact hdefault

end Documented

theorem documented_run (options : DefinitionOptions) (changes : List Change) :
    Documented options.separator ((ofOptions options).run changes)
      ((ofOptions options).accepted changes) :=
  (documented_start options).run changes

/-! ## What is said about groups -/

/-- The description that a change gives to a group. -/
def Change.describes? (name : String) : Change → Option String
  | defineGroup other description => if other = name then some description else none
  | _ => none

/-- The last description of a group, which is empty if there is none. -/
def lastDescription (changes : List Change) (name : String) : String :=
  (changes.reverse.findSome? (·.describes? name)).getD ""

theorem groups_step (c : Catalog) (change : Change) (name : String) :
    (c.step change).groups.get? name = (change.describes? name).or (c.groups.get? name) := by
  cases change with
  | defineMetric rule info =>
    rw [step_defineMetric]
    cases c.definitions.addRule rule <;> rfl
  | defineGroup other description =>
    have hget : (c.groups.insert other description).get? name =
        if other = name then some description else c.groups.get? name := SortedMap.get?_insert ..
    rw [step, defineGroup, hget, Change.describes?]
    split_ifs <;> rfl
  | _ => rfl

theorem groups_run (c : Catalog) (changes : List Change) (name : String) :
    (c.run changes).groups.get? name =
      (changes.reverse.findSome? (·.describes? name)).or (c.groups.get? name) := by
  induction changes generalizing c with
  | nil => rfl
  | cons change changes ih =>
    have hrun : c.run (change :: changes) = (c.step change).run changes := rfl
    rw [hrun, ih, groups_step, List.reverse_cons, List.findSome?_append, Option.or_assoc]
    congr 2
    cases hsaid : change.describes? name <;> simp [List.findSome?, hsaid]

theorem groupDescription_run (options : DefinitionOptions) (changes : List Change) (name : String) :
    ((ofOptions options).run changes).groupDescription name = lastDescription changes name := by
  have hnone : (ofOptions options).groups.get? name = none := rfl
  rw [groupDescription, groups_run, hnone, Option.or_none, lastDescription]

/-! ## Lists and metadata -/

/-- **The tree and the metadata never drift apart**: the metrics that are listed are those that were
accepted, once each, and about each of them is kept what was told then; a metric that is refused
changes nothing. -/
theorem listMetrics_run (options : DefinitionOptions) (changes : List Change) :
    let c := (ofOptions options).run changes
    let accepted := (ofOptions options).accepted changes
    (accepted.map Prod.fst).Nodup ∧
    (∀ rule, rule ∈ c.listMetrics ↔ rule ∈ accepted.map Prod.fst) ∧
    c.listMetrics.Pairwise (· < ·) ∧
    c.metrics.keys = c.listMetrics ∧
    (∀ rule info, c.metric? rule = some info ↔ (rule, info) ∈ accepted) ∧
    c.listDefaultMetrics =
      (c.listMetrics.filter fun rule => accepted.any fun a => a.1 == rule && a.2.isDefault) ∧
    ∀ rule info e, (c.defineMetric rule info).value = .error e →
      (ofOptions options).run (changes ++ [.defineMetric rule info]) = c := by
  intro c accepted
  have h := documented_run options changes
  refine ⟨h.nodup, fun rule => h.mem_listMetrics_iff, h.pairwise_lt_listMetrics,
    h.keys_eq_listMetrics, h.metric?_eq_some_iff, h.listDefaultMetrics_eq, ?_⟩
  intro rule info e hrefused
  rw [run, List.foldl_append]
  show c.step (.defineMetric rule info) = c
  simp only [step, hrefused]

/-- The second definition of a metric is refused, and so is one that goes on behind it until metrics
may end on any level. -/
theorem listMetrics_run_refused :
    let changes : List Change := [.defineMetric "/p/b" ⟨"s", true, "first"⟩,
      .defineMetric "/p/b" ⟨"ms", false, "second"⟩, .defineMetric "/p/b/m" {}, .allowAnyLevel,
      .defineMetric "/p/b/a" {}, .defineMetric "/p/a" ⟨"B", true, ""⟩]
    let c := (ofOptions {}).run changes
    c.listMetrics = ["/p/a", "/p/b", "/p/b/a"] ∧ c.listDefaultMetrics = ["/p/a", "/p/b"] ∧
      c.metric? "/p/b" = some ⟨"s", true, "first"⟩ ∧
      (ofOptions {}).run (changes ++ [.defineMetric "/p/[g]" {}]) = c := by
  intro changes c
  obtain ⟨-, -, -, hkeys, hmetric, -, hrefused⟩ := listMetrics_run {} changes
  refine ⟨hkeys.symm.trans (by decide +kernel), by decide +kernel, ?_, hrefused _ _ _ rfl⟩
  exact (hmetric _ _).mpr (by decide +kernel)

end Telemetry.Catalog

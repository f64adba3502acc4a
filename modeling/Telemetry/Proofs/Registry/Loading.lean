import Telemetry.Proofs.Catalog
import Telemetry.Proofs.Registry.Entries
import Telemetry.Proofs.Rule.Listing

/-!
# The verdict on each rule of a task

When a task is loaded, its rules are judged one by one. The filters that grow on the way are never
looked at, so a rule is kept or refused for reasons of its own (`Filters.refusal?`), and the loop
over the rules comes to this: the rules that are kept make the filters, and the reasons of the
others are reported in the order of the rules (`Registry.value_addRules`). A strict registry stops
at the first of these reasons, and makes the same filters if there is none (`load_judges_rules`).

* `Filters.refusal?`: the verdict on one rule.
* `Registry.asked`: the rules that are judged.
-/

namespace Telemetry

open Log

variable {d : Definitions} {rule : String} {rules : List String}

/-! ## One rule -/

namespace Filters

/-- Why a rule is refused beside some definitions, if it is, by filters that hold no other rule. -/
def refusal? (d : Definitions) (rule : String) : Option FilterError :=
  match addCompatibleRule { separator := d.options.separator } d rule with
  | .ok _ => none
  | .error e => some e

theorem compatibleRule_congr {f f' : Filters} (h : f.separator = f'.separator) (d : Definitions)
    (rule : String) : f.compatibleRule d rule = f'.compatibleRule d rule := by
  rw [compatibleRule, compatibleRule, parseRule, parseRule, h]

namespace History

variable {h : History}

theorem addCompatible_judged (hseparator : h.filters.separator = d.options.separator)
    (rule : String) :
    (refusal? d rule = none ∧ ∃ ns, h.filters.compatibleRule d rule = .ok ns ∧
      h.addCompatible d rule = ⟨(h.filters.insert rule ns).value, h.accepted ++ [rule]⟩) ∨
    ∃ e, refusal? d rule = some e ∧ h.filters.compatibleRule d rule = .error e ∧
      h.addCompatible d rule = h := by
  have hread : h.filters.compatibleRule d rule =
      compatibleRule { separator := d.options.separator } d rule :=
    compatibleRule_congr hseparator d rule
  rw [addCompatible, refusal?, addCompatibleRule, addCompatibleRule, hread]
  cases compatibleRule { separator := d.options.separator } d rule with
  | ok ns => exact .inl ⟨rfl, ns, rfl, rfl⟩
  | error e => exact .inr ⟨e, rfl, rfl, rfl⟩

theorem accepted_addAllCompatible_eq (hseparator : h.filters.separator = d.options.separator)
    (rules : List String) : (h.addAllCompatible d rules).accepted =
      h.accepted ++ rules.filter fun rule => (refusal? d rule).isNone := by
  induction rules generalizing h with
  | nil => simp [addAllCompatible]
  | cons rule rules ih =>
    have hrest : h.addAllCompatible d (rule :: rules) =
        (h.addCompatible d rule).addAllCompatible d rules := rfl
    rw [hrest]
    rcases addCompatible_judged hseparator rule with
      ⟨hkept, ns, -, hadded⟩ | ⟨e, hrefused, -, hsame⟩
    · rw [hadded, ih (by exact hseparator), List.filter_cons_of_pos (by simp [hkept]),
        List.append_assoc, List.singleton_append]
    · rw [hsame, ih hseparator, List.filter_cons_of_neg (by simp [hrefused])]

end History

end Filters

/-! ## All rules of a task -/

namespace Registry

variable {σ ρ : Type} {r : Registry σ} {id : String}

/-- The rules that are not left out as the rule for everything. -/
def asked (rules : List String) : List String := rules.filter (· ≠ requestAll)

theorem mem_asked_iff : rule ∈ asked rules ↔ rule ∈ rules ∧ rule ≠ requestAll := by simp [asked]

theorem value_addRules {h : Filters.History} (hseparator : h.filters.separator = d.options.separator)
    (strict : Bool) (id : String) (rules : List String) :
    (addRules d strict id h.filters rules).value =
      match strict, (asked rules).filterMap (Filters.refusal? d) with
      | true, e :: _ => .error e
      | _, skipped => .ok ((h.addAllCompatible d (asked rules)).filters, skipped) := by
  induction rules generalizing h with
  | nil => cases strict <;> rfl
  | cons rule rules ih =>
    by_cases hall : rule = requestAll
    · have hasked : asked (rule :: rules) = asked rules := by simp [asked, hall]
      rw [addRules, if_pos hall, hasked]
      exact ih hseparator
    · have hasked : asked (rule :: rules) = rule :: asked rules := by simp [asked, hall]
      have hrest : h.addAllCompatible d (rule :: asked rules) =
          (h.addCompatible d rule).addAllCompatible d (asked rules) := rfl
      rw [addRules, if_neg hall, hasked, hrest]
      rcases Filters.History.addCompatible_judged hseparator rule with
        ⟨hkept, ns, hread, hadded⟩ | ⟨e, hrefused, hread, hsame⟩
      · rw [hread, hadded, List.filterMap_cons_none hkept]
        exact ih (h := ⟨(h.filters.insert rule ns).value, h.accepted ++ [rule]⟩) hseparator
      · rw [hread, List.filterMap_cons_some hrefused, hsame]
        cases strict with
        | true => rfl
        | false => simp [ih hseparator, Except.map]

theorem value_load {config : Json} {task : Task σ} {hook : Hook σ ρ} (hloaded : r.isLoaded id = false)
    (htask : Task.create id config = .ok task) (hhook : (hook task).2.failure? = none)
    (rules : List String) :
    (r.load id config rules hook).value =
      match (r.readRules id rules).value with
      | .error e => (r, .error (.invalidFilter id e), none)
      | .ok (filters, skipped) =>
        (r.put id { task := { task with state := (hook task).1 }, filters }, .ok ⟨skipped⟩,
          some (hook task).2.result) := by
  rw [load, hloaded, if_neg Bool.false_ne_true, htask]
  dsimp only
  rw [Logged.value_bind]
  cases (r.readRules id rules).value with
  | error e => rfl
  | ok read =>
    simp only [enter, hhook, id_of_create htask]

theorem acquire_put {entry : LoadedTask σ} (hbusy : entry.busy = false) :
    (r.put id entry).acquire id = .ok ((r.put id entry).put id { entry with busy := true },
      { task := entry.task, catalog := r.catalog, filters := entry.filters }) := by
  rw [acquire, loaded?_put, if_pos rfl]
  dsimp only
  rw [hbusy, if_neg Bool.false_ne_true]
  rfl

/-- The registry with tasks loaded strictly or not. -/
def withStrict (r : Registry σ) (strict : Bool) : Registry σ := { r with strict }

/-- **A task is loaded with the rules against which there is nothing to say**, listed once each and
in order, and with a report of what there is to say against the others; a strict registry loads it
in the same way if the report is empty, and refuses it for the first reason if it is not. -/
theorem load_judges_rules (r : Registry σ) (id : String) (config : Json) (rules : List String)
    (hook : Hook σ ρ) {task : Task σ} (hloaded : r.isLoaded id = false)
    (htask : Task.create id config = .ok task) (hhook : (hook task).2.failure? = none) :
    let d := r.catalog.definitions
    let skipped := (asked rules).filterMap (Filters.refusal? d)
    ∃ entry : LoadedTask σ,
      ((r.withStrict false).load id config rules hook).value =
        ((r.withStrict false).put id entry, .ok ⟨skipped⟩,
          some (hook task).2.result) ∧
      ((r.withStrict true).load id config rules hook).value =
        (match skipped with
        | [] => ((r.withStrict true).put id entry, .ok ⟨[]⟩,
            some (hook task).2.result)
        | e :: _ => (r.withStrict true, .error (.invalidFilter id e), none)) ∧
      (∀ strict, ∃ s c, ((r.withStrict strict).put id entry).acquire id = .ok (s, c) ∧
        c.filters = entry.filters ∧ c.requestedMetrics = entry.filters.listRules) ∧
      entry.filters.listRules.Pairwise (· < ·) ∧
      ∀ rule, rule ∈ entry.filters.listRules ↔
        rule ∈ rules ∧ rule ≠ requestAll ∧ Filters.refusal? d rule = none := by
  intro d skipped
  let kept := (Filters.History.start d.options.separator).addAllCompatible d (asked rules)
  have hkept : kept.Sound d.options.separator :=
    (Filters.History.sound_start _).addAllCompatible d (asked rules)
  have haccepted : kept.accepted =
      (asked rules).filter fun rule => (Filters.refusal? d rule).isNone :=
    (Filters.History.accepted_addAllCompatible_eq rfl _).trans (List.nil_append _)
  have hread : ∀ strict, ((r.withStrict strict).readRules id rules).value =
      match strict, skipped with
      | true, e :: _ => .error e
      | _, skipped => .ok (kept.filters, skipped) := fun strict =>
    value_addRules (h := Filters.History.start d.options.separator) rfl strict id rules
  refine ⟨{ task := { task with state := (hook task).1 }, filters := kept.filters }, ?_, ?_,
    fun strict => ⟨_, _, acquire_put rfl, rfl, rfl⟩, hkept.pairwise_lt_listRules, fun rule => ?_⟩
  · rw [value_load (r := r.withStrict false) hloaded htask hhook, hread]
  · rw [value_load (r := r.withStrict true) hloaded htask hhook, hread]
    cases skipped <;> rfl
  · rw [hkept.mem_listRules_iff, haccepted, List.mem_filter, mem_asked_iff, Option.isNone_iff_eq_none,
      and_assoc]

/-- Of five rules two are refused, one comes twice and one asks for everything. -/
theorem load_judges_rules_mixed :
    let r : Registry Unit := { catalog := (Catalog.ofOptions {}).run [.defineMetric "/p/[g]/m" {}] }
    let rules := ["/p/[g]/*", "/q/x", "/*", "/p/[h]/m", "/p/[g]/*"]
    let hook : Hook Unit Unit := fun task => (task.state, ⟨(), none⟩)
    let task := Task.ofObject "t" (.object [])
    r.isLoaded "t" = false ∧ Task.create "t" .null = .ok task ∧ (hook task).2.failure? = none ∧
    ((r.withStrict false).load "t" .null rules hook).value.2.1 =
      .ok ⟨[.noMatchingDefinition "/q/x", .noMatchingDefinition "/p/[h]/m"]⟩ ∧
    ((r.withStrict true).load "t" .null rules hook).value.2.1 =
      .error (.invalidFilter "t" (.noMatchingDefinition "/q/x")) := by
  intro r rules hook task
  have hloaded : r.isLoaded "t" = false := rfl
  have htask : Task.create "t" .null = .ok task := rfl
  have hhook : (hook task).2.failure? = none := rfl
  have hskipped : (asked rules).filterMap (Filters.refusal? r.catalog.definitions) =
      [.noMatchingDefinition "/q/x", .noMatchingDefinition "/p/[h]/m"] := by decide +kernel
  obtain ⟨entry, hlenient, hstrict, -⟩ := load_judges_rules r "t" .null rules hook hloaded htask hhook
  rw [hskipped] at hlenient hstrict
  exact ⟨hloaded, htask, hhook, by rw [hlenient], by rw [hstrict]⟩

end Registry

end Telemetry

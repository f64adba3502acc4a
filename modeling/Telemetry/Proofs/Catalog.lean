import Telemetry.Catalog
import Telemetry.Proofs.Rule.History

/-!
# Runs of a catalog

A catalog changes its definitions only by adding rules and by allowing more. So every run of a
catalog is a run of its definitions that leaves the separator as it is (`exists_history`), and what
holds of the latter holds of the former.

* `Catalog.Change`, `Catalog.run`: the steps and the runs.
-/

namespace Telemetry.Catalog

inductive Change where
  | defineMetric (rule : String) (info : MetricInfo)
  | defineGroup (name description : String)
  | allowDynamicLast
  | allowUndefinedMetrics
  | allowAnyLevel

/-- One change; a metric that is refused leaves everything as it is. -/
def step (c : Catalog) : Change → Catalog
  | .defineMetric rule info =>
    match (c.defineMetric rule info).value with
    | .ok catalog => catalog
    | .error _ => c
  | .defineGroup name description => c.defineGroup name description
  | .allowDynamicLast => c.allowDynamicLast
  | .allowUndefinedMetrics => c.allowUndefinedMetrics
  | .allowAnyLevel => c.allowAnyLevel

def run (c : Catalog) (changes : List Change) : Catalog := changes.foldl step c

variable {c : Catalog}

theorem step_defineMetric (c : Catalog) (rule : String) (info : MetricInfo) :
    c.step (.defineMetric rule info) =
      match c.definitions.addRule rule with
      | .ok definitions => { c with definitions, metrics := c.metrics.insert rule info }
      | .error _ => c := by
  simp only [step, defineMetric, withMetric]
  cases c.definitions.addRule rule <;> rfl

/-! ## The definitions along a run -/

open Definitions (History)

variable {h : History} {separator : Char}

theorem exists_history_step (hs : h.Sound separator) (heq : h.definitions = c.definitions)
    (change : Change) : ∃ changes : List Definitions.Change,
      (∀ d ∈ changes, d.Keeps separator) ∧
        (h.run changes).definitions = (c.step change).definitions := by
  have hseparator : c.options.separator = separator := by
    rw [options, ← heq, hs.separator_eq]
  have hallow : ∀ options : DefinitionOptions, options.separator = separator →
      ∃ changes : List Definitions.Change, (∀ d ∈ changes, d.Keeps separator) ∧
        (h.run changes).definitions = (c.withOptions options).definitions := by
    intro options hkeeps
    refine ⟨[.setOptions options], by simpa [Definitions.Change.Keeps] using hkeeps, ?_⟩
    simp [History.run, History.step, withOptions, heq]
  cases change with
  | defineMetric rule info =>
    refine ⟨[.addRule rule], by simp [Definitions.Change.Keeps], ?_⟩
    rw [step_defineMetric, History.run, List.foldl_cons, List.foldl_nil, History.step, heq]
    cases c.definitions.addRule rule with
    | ok definitions => rfl
    | error e => exact heq
  | defineGroup name description => exact ⟨[], by simp, heq⟩
  | allowDynamicLast => exact hallow _ hseparator
  | allowUndefinedMetrics => exact hallow _ hseparator
  | allowAnyLevel => exact hallow _ hseparator

theorem exists_history_run (hs : h.Sound separator) (heq : h.definitions = c.definitions)
    (changes : List Change) : ∃ below : List Definitions.Change,
      (∀ d ∈ below, d.Keeps separator) ∧
        (h.run below).definitions = (c.run changes).definitions := by
  induction changes generalizing c h with
  | nil => exact ⟨[], by simp, heq⟩
  | cons change changes ih =>
    obtain ⟨first, hfirst, hstep⟩ := exists_history_step hs heq change
    obtain ⟨rest, hrest, hrun⟩ := ih (hs.run hfirst) hstep
    refine ⟨first ++ rest, fun d hd => (List.mem_append.mp hd).elim (hfirst d) (hrest d), ?_⟩
    rw [History.run, List.foldl_append]
    exact hrun

theorem exists_history (options : DefinitionOptions) (changes : List Change) :
    ∃ below : List Definitions.Change, (∀ d ∈ below, d.Keeps options.separator) ∧
      ((History.start options).run below).definitions = ((ofOptions options).run changes).definitions :=
  exists_history_run (History.sound_start options) rfl changes

theorem wellFormed_run (options : DefinitionOptions) (changes : List Change) :
    ((ofOptions options).run changes).definitions.WellFormed := by
  obtain ⟨below, hbelow, hrun⟩ := exists_history options changes
  rw [← hrun]
  exact ((History.sound_start options).run hbelow).wellFormed

end Telemetry.Catalog

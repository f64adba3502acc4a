import Telemetry.Proofs.Collection.Recording
import Telemetry.Registry.Routine

/-!
# Runs of a collection

What a collection works with stays the same from its begin to its end: no action changes the
definitions, the filters, or the task apart from its state (`scope_run`). Whether a path resolves
and is asked for is therefore the same all along.

* `Task.bare`: a task without its state.
* `Collection.scope`: what a collection works with.
* `Collection.run`: the collection after some actions.
-/

namespace Telemetry

/-- The task as it was loaded: without what it keeps. -/
def Task.bare {σ : Type} (t : Task σ) : Task σ := { t with state := .empty }

namespace Collection

variable {σ : Type} {c d : Collection σ} {text : String} {now : Instant} {value : Value}
  {modifiers : List Modifier}

/-- What a collection works with. -/
def scope (c : Collection σ) : Task σ × Catalog × Filters := (c.task.bare, c.catalog, c.filters)

theorem task_bare_eq (h : c.scope = d.scope) : c.task.bare = d.task.bare := (Prod.mk.inj h).1

theorem catalog_eq (h : c.scope = d.scope) : c.catalog = d.catalog :=
  congrArg (fun scope => scope.2.1) h

theorem filters_eq (h : c.scope = d.scope) : c.filters = d.filters :=
  congrArg (fun scope => scope.2.2) h

/-! ## One action -/

def step (c : Collection σ) (a : Action σ) : Collection σ := (c.perform a).value.1

theorem scope_addMetric (c : Collection σ) (now : Instant) (text : String) (value : Value)
    (modifiers : List Modifier) :
    (c.addMetric now text value modifiers).value.1.scope = c.scope := by
  unfold addMetric
  split <;> rfl

theorem scope_addWarning (c : Collection σ) (now : Instant) (message : String) :
    (c.addWarning now message).value.scope = c.scope := by
  unfold addWarning
  split <;> rfl

theorem register_eq_ok {handle : Nat} {selector : String}
    (h : c.register selector modifiers = .ok (d, handle)) :
    d = { c with registrations := c.registrations ++ [{ selector, modifiers }] } ∧
      handle = c.registrations.length := by
  unfold register at h
  dsimp only at h
  split_ifs at h
  · cases h
    exact ⟨rfl, rfl⟩
  · split at h
    · cases h
    · cases h
      exact ⟨rfl, rfl⟩

theorem scope_register {handle : Nat} {selector : String}
    (h : c.register selector modifiers = .ok (d, handle)) : d.scope = c.scope := by
  obtain ⟨rfl, -⟩ := register_eq_ok h
  rfl

theorem scope_step (c : Collection σ) (a : Action σ) : (c.step a).scope = c.scope := by
  cases a with
  | addMetric now path value modifiers => exact scope_addMetric c now path value modifiers
  | register selector modifiers =>
    simp only [step, perform]
    split
    · rfl
    · next d handle hregister => exact scope_register hregister
  | warn now message => exact scope_addWarning c now message
  | _ => rfl

/-! ## Many actions -/

def run (c : Collection σ) (actions : List (Action σ)) : Collection σ := actions.foldl step c

theorem scope_run (c : Collection σ) (actions : List (Action σ)) : (c.run actions).scope = c.scope := by
  induction actions generalizing c with
  | nil => rfl
  | cons a actions ih => exact (ih (c.step a)).trans (scope_step c a)

/-! ## What depends on the scope only -/

theorem resolve_congr (h : c.scope = d.scope) (text : String) : c.resolve text = d.resolve text := by
  simp only [resolve, catalog_eq h]

theorem shouldProcess_congr (h : c.scope = d.scope) (text : String) :
    c.shouldProcess text = d.shouldProcess text := by
  simp only [shouldProcess, catalog_eq h, filters_eq h]

theorem answer_eq_added_iff : (c.addMetric now text value modifiers).value.2 = .ok .added ↔
    ∃ ns r, c.resolve text = .ok (ns, r) ∧ c.filters.accepts ns = true := by
  constructor
  · intro hadded
    cases hresolve : c.resolve text with
    | error e => simp [addMetric, recording, hresolve, Except.map] at hadded
    | ok resolved =>
      obtain ⟨ns, r⟩ := resolved
      refine ⟨ns, r, rfl, ?_⟩
      rw [addMetric_of_resolve hresolve] at hadded
      by_contra haccepts
      simp [haccepts] at hadded
  · rintro ⟨ns, r, hresolve, haccepts⟩
    rw [addMetric_of_resolve hresolve, if_pos haccepts]

end Collection

end Telemetry

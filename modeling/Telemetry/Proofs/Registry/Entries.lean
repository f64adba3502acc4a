import Mathlib.Tactic.Common
import Telemetry.Proofs.Collection.Run

/-!
# What a registry shows of its tasks

`Registry.view` is what requests depend on: which tasks are loaded, with which configuration and
filters, and which are busy. What tasks keep between collections is left out. There is one lemma for
each operation, which says all that the operation does to the view: only a load that succeeds, an
unload that succeeds, and the begin and the end of a collection change it, each for one task.

* `LoadedTask.bare`, `Registry.view`: the entries without what their tasks keep.
-/

namespace Telemetry

open Log

variable {σ ρ : Type}

def LoadedTask.bare (entry : LoadedTask σ) : LoadedTask σ := { entry with task := entry.task.bare }

namespace Registry

/-- How a task is loaded, apart from what it keeps. -/
def view (r : Registry σ) (id : String) : Option (LoadedTask σ) :=
  (r.loaded? id).map LoadedTask.bare

/-- What a registry never changes. -/
def terms (r : Registry σ) : Catalog × Bool := (r.catalog, r.strict)

variable {r r' : Registry σ} {c : Collection σ} {id other : String} {entry : LoadedTask σ}

/-! ## Single entries -/

theorem loaded?_put (r : Registry σ) (id other : String) (entry : LoadedTask σ) :
    (r.put id entry).loaded? other = if id = other then some entry else r.loaded? other :=
  SortedMap.get?_insert r.tasks id other entry

theorem loaded?_put_eq (r : Registry σ) (id : String) (entry : LoadedTask σ) :
    (r.put id entry).loaded? = Function.update r.loaded? id (some entry) := by
  funext other
  rw [loaded?_put, Function.update_apply]
  simp only [eq_comm]

theorem loaded?_modify (r : Registry σ) (id : String) (change : LoadedTask σ → LoadedTask σ) :
    (r.modify id change).loaded? = Function.update r.loaded? id ((r.loaded? id).map change) := by
  unfold modify
  cases hloaded : r.loaded? id with
  | none => exact (Function.update_eq_self_iff.mpr hloaded.symm).symm
  | some entry => exact loaded?_put_eq r id (change entry)

theorem loaded?_erase (r : Registry σ) (id : String) :
    ({ r with tasks := r.tasks.erase id } : Registry σ).loaded? =
      Function.update r.loaded? id none := by
  funext other
  rw [loaded?, SortedMap.get?_erase, Function.update_apply]
  simp only [eq_comm]
  rfl

theorem view_of_loaded? {shown : Option (LoadedTask σ)}
    (h : r'.loaded? = Function.update r.loaded? id shown) :
    r'.view = Function.update r.view id (shown.map LoadedTask.bare) := by
  have hview : ∀ r : Registry σ, r.view = Option.map LoadedTask.bare ∘ r.loaded? := fun _ => rfl
  rw [hview, hview, h, Function.comp_update]

theorem view_put (r : Registry σ) (id : String) (entry : LoadedTask σ) :
    (r.put id entry).view = Function.update r.view id (some entry.bare) :=
  view_of_loaded? (loaded?_put_eq r id entry)

theorem view_modify (r : Registry σ) (id : String) (change : LoadedTask σ → LoadedTask σ) :
    (r.modify id change).view =
      Function.update r.view id ((r.loaded? id).map fun entry => (change entry).bare) := by
  rw [view_of_loaded? (loaded?_modify r id change), Option.map_map]
  rfl

theorem terms_modify (r : Registry σ) (id : String) (change : LoadedTask σ → LoadedTask σ) :
    (r.modify id change).terms = r.terms := by
  unfold modify
  split <;> rfl

/-! ## What tasks keep -/

theorem view_updateState (r : Registry σ) (id : String) (change : TaskState σ → TaskState σ) :
    (r.updateState id change).view = r.view := by
  rw [updateState, view_modify, Function.update_eq_self_iff]
  rfl

theorem terms_updateState (r : Registry σ) (id : String) (change : TaskState σ → TaskState σ) :
    (r.updateState id change).terms = r.terms := terms_modify ..

theorem view_keep (r : Registry σ) (c : Collection σ) : (r.keep c).view = r.view := view_updateState ..

theorem terms_keep (r : Registry σ) (c : Collection σ) : (r.keep c).terms = r.terms :=
  terms_updateState ..

theorem view_visit (r : Registry σ) (id : String) (job : Task σ → TaskState σ × ρ) :
    (r.visit id job).1.view = r.view := by
  unfold visit
  split
  · rfl
  · exact view_updateState ..

theorem terms_visit (r : Registry σ) (id : String) (job : Task σ → TaskState σ × ρ) :
    (r.visit id job).1.terms = r.terms := by
  unfold visit
  split
  · rfl
  · exact terms_updateState ..

/-! ## Loading and unloading -/

theorem readRules_congr (h : r.terms = r'.terms) (id : String) (rules : List String) :
    r.readRules id rules = r'.readRules id rules := by
  obtain ⟨hcatalog, hstrict⟩ := Prod.mk.inj h
  rw [readRules, readRules, hcatalog, hstrict]

theorem id_of_create {config : Json} {task : Task σ} (h : Task.create id config = .ok task) :
    task.id = id := by
  unfold Task.create at h
  split at h <;> cases h <;> rfl

theorem state_of_create {config : Json} {task : Task σ} (h : Task.create id config = .ok task) :
    task.state = .empty := by
  unfold Task.create at h
  split at h <;> cases h <;> rfl

theorem load_cases (r : Registry σ) (id : String) (config : Json) (rules : List String)
    (hook : Hook σ ρ) :
    (∃ e, (∀ x, e ≠ .busy x) ∧ (r.load id config rules hook).value.1 = r ∧
      (r.load id config rules hook).value.2.1 = .error e) ∨
    ∃ (task : Task σ) (filters : Filters) (skipped : List FilterError),
      Task.create id config = .ok task ∧ r.loaded? id = none ∧
      (r.readRules id rules).value = .ok (filters, skipped) ∧
      (r.load id config rules hook).value.1 =
        r.put id { task := { task with state := (hook task).1 }, filters } ∧
      (r.load id config rules hook).value.2.1 = .ok ⟨skipped⟩ := by
  unfold load
  by_cases hloaded : r.isLoaded id = true
  · rw [if_pos hloaded]
    exact .inl ⟨.alreadyLoaded id, nofun, rfl, rfl⟩
  rw [if_neg hloaded]
  cases hcreate : Task.create id config with
  | error e => exact .inl ⟨.invalidConfig id e, nofun, rfl, rfl⟩
  | ok task =>
    dsimp only
    rw [Logged.value_bind]
    cases hrules : (r.readRules id rules).value with
    | error e => exact .inl ⟨.invalidFilter id e, nofun, rfl, rfl⟩
    | ok read =>
      obtain ⟨filters, skipped⟩ := read
      have hnone : r.loaded? id = none := by
        simpa [isLoaded, SortedMap.contains, loaded?] using hloaded
      dsimp only [enter]
      cases (hook task).2.failure? with
      | some failure => exact .inl ⟨.loading task.id failure, nofun, rfl, rfl⟩
      | none =>
        refine .inr ⟨task, filters, skipped, rfl, hnone, rfl, ?_, rfl⟩
        rw [id_of_create hcreate]

theorem load_of_loaded (h : r.loaded? id = some entry) (config : Json) (rules : List String)
    (hook : Hook σ ρ) :
    (r.load id config rules hook).value = (r, .error (.alreadyLoaded id), none) := by
  have hloaded : r.isLoaded id = true := by
    rw [isLoaded, SortedMap.contains, ← loaded?, h, Option.isSome_some]
  rw [load, if_pos hloaded]
  rfl

theorem unload_of_idle (h : r.loaded? id = some entry) (hidle : entry.busy = false)
    (hook : Hook σ ρ) : (r.unload id hook).value =
      match (hook entry.task).2.failure? with
      | some failure => (r.updateState id fun _ => (hook entry.task).1,
          .error (.unloading id failure), some (hook entry.task).2.result)
      | none => ({ r with tasks := r.tasks.erase id }, .ok (), some (hook entry.task).2.result) := by
  rw [unload, h]
  dsimp only
  rw [hidle, if_neg Bool.false_ne_true]
  cases (hook entry.task).2.failure? <;> rfl

theorem unload_of_busy (h : r.loaded? id = some entry) (hbusy : entry.busy = true)
    (hook : Hook σ ρ) : (r.unload id hook).value = (r, .error (.busy id), none) := by
  rw [unload, h]
  dsimp only
  rw [if_pos hbusy]
  rfl

theorem unload_cases (r : Registry σ) (id : String) (hook : Hook σ ρ) :
    (∃ e, (∀ x, e = .busy x → ∃ entry, r.loaded? id = some entry ∧ entry.busy = true) ∧
      (r.unload id hook).value.1.view = r.view ∧ (r.unload id hook).value.1.terms = r.terms ∧
      (r.unload id hook).value.2.1 = .error e) ∨
    ∃ entry, r.loaded? id = some entry ∧ entry.busy = false ∧
      (r.unload id hook).value.1 = { r with tasks := r.tasks.erase id } ∧
      (r.unload id hook).value.2.1 = .ok () := by
  cases hloaded : r.loaded? id with
  | none =>
    rw [unload, hloaded]
    exact .inl ⟨.unknownTask id, nofun, rfl, rfl, rfl⟩
  | some entry =>
    cases hbusy : entry.busy with
    | true =>
      rw [unload_of_busy hloaded hbusy]
      exact .inl ⟨.busy id, fun _ _ => ⟨entry, rfl, hbusy⟩, rfl, rfl, rfl⟩
    | false =>
      rw [unload_of_idle hloaded hbusy]
      cases (hook entry.task).2.failure? with
      | some failure =>
        exact .inl ⟨.unloading id failure, nofun, view_updateState .., terms_updateState .., rfl⟩
      | none => exact .inr ⟨entry, rfl, hbusy, rfl, rfl⟩

theorem view_erase (r : Registry σ) (id : String) :
    ({ r with tasks := r.tasks.erase id } : Registry σ).view = Function.update r.view id none :=
  view_of_loaded? (loaded?_erase r id)

/-! ## Collecting -/

theorem acquire_of_busy (h : r.loaded? id = some entry) (hbusy : entry.busy = true) :
    r.acquire id = .error (.busy id) := by
  rw [acquire, h]
  dsimp only
  rw [if_pos hbusy]

theorem acquire_cases (r : Registry σ) (id : String) :
    (∃ e, (∀ x, e = .busy x → ∃ entry, r.loaded? id = some entry ∧ entry.busy = true) ∧
      r.acquire id = .error e) ∨
    ∃ entry, r.loaded? id = some entry ∧ entry.busy = false ∧
      r.acquire id = .ok (r.put id { entry with busy := true },
        { task := entry.task, catalog := r.catalog, filters := entry.filters }) := by
  unfold acquire
  cases hloaded : r.loaded? id with
  | none => exact .inl ⟨.unknownTask id, nofun, rfl⟩
  | some entry =>
    dsimp only
    cases hbusy : entry.busy with
    | true => exact .inl ⟨.busy id, fun _ _ => ⟨entry, rfl, hbusy⟩, rfl⟩
    | false => exact .inr ⟨entry, rfl, hbusy, rfl⟩

theorem collect_of_error {e : TaskError} (h : r.acquire id = .error e) (code : Routine σ ρ) :
    (r.collect id code).value = (r, .error e, none) := by
  rw [collect, collectBy, h]
  rfl

theorem acquire_of_collect_busy {code : Routine σ ρ} {x : String}
    (h : (r.collect id code).value.2.1 = .error (.busy x)) : r.acquire id = .error (.busy x) := by
  rw [collect, collectBy] at h
  cases hacquire : r.acquire id with
  | error e =>
    rw [hacquire] at h
    rw [show e = .busy x from Except.error.inj h]
  | ok begun =>
    obtain ⟨r', c⟩ := begun
    rw [hacquire] at h
    simp only [Logged.value_bind, Logged.value_pure, outcome] at h
    split at h <;> cases h

theorem view_release (r : Registry σ) (c : Collection σ) : (r.release c).view =
    Function.update r.view c.task.id
      ((r.view c.task.id).map fun entry => { entry with busy := false }) := by
  have hentry : (r.view c.task.id).map (fun entry => { entry with busy := false }) =
      ((r.keep c).loaded? c.task.id).map fun entry => ({ entry with busy := false }).bare := by
    rw [← view_keep r c, view, Option.map_map]
    rfl
  rw [release, view_modify, view_keep, hentry]

theorem terms_release (r : Registry σ) (c : Collection σ) : (r.release c).terms = r.terms :=
  (terms_modify ..).trans (terms_keep r c)

end Registry

end Telemetry

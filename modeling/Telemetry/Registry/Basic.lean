import Telemetry.Collection.Basic
import Telemetry.Registry.Error

/-!
# The registry of tasks

The tasks that are loaded, each with its filters. A task is busy from the acquisition of a
collection to its release, and has no other collection meanwhile.

* `Registry.load`, `Registry.unload`: loading and unloading tasks, with a hook for each.
* `Registry.acquire`, `Registry.release`: the beginning and the end of a collection.
* `Registry.visit`: code that works on a loaded task.
-/

namespace Telemetry

open Log

structure LoadedTask (σ : Type) where
  task : Task σ
  filters : Filters
  busy : Bool := false

structure Registry (σ : Type) where
  catalog : Catalog
  /-- A task with an invalid filter is not loaded. -/
  strict : Bool := false
  tasks : SortedMap (LoadedTask σ) := .empty

/-- How custom code ended: with a result, and with a failure unless it succeeded. -/
structure Ended (ρ : Type) where
  result : ρ
  failure? : Option Diagnostic := none

/-- Custom code that sees a task and says what the task keeps from then on. -/
abbrev Hook (σ ρ : Type) := Task σ → TaskState σ × Ended ρ

/-- The filters of a loaded task that were skipped. -/
structure LoadReport where
  skipped : List FilterError
deriving Repr, DecidableEq

def LoadReport.isComplete (report : LoadReport) : Bool := report.skipped.isEmpty

/-- The rule for tasks that ask for nothing in particular. -/
def requestAll : String := "/*"

namespace Registry

variable {σ ρ : Type}

def loaded? (r : Registry σ) (id : String) : Option (LoadedTask σ) := r.tasks.get? id

def isLoaded (r : Registry σ) (id : String) : Bool := r.tasks.contains id

def task? (r : Registry σ) (id : String) : Option (Task σ) := (r.loaded? id).map (·.task)

def put (r : Registry σ) (id : String) (entry : LoadedTask σ) : Registry σ :=
  { r with tasks := r.tasks.insert id entry }

/-- Changes the entry of a task, if it is loaded. -/
def modify (r : Registry σ) (id : String) (change : LoadedTask σ → LoadedTask σ) : Registry σ :=
  match r.loaded? id with
  | none => r
  | some entry => r.put id (change entry)

/-- Changes what a task keeps, if it is loaded. -/
def updateState (r : Registry σ) (id : String) (change : TaskState σ → TaskState σ) : Registry σ :=
  r.modify id fun entry =>
    { entry with task := { entry.task with state := change entry.task.state } }

/-- Runs code on a task; there is no result if the task is not loaded. -/
def visit (r : Registry σ) (id : String) (job : Task σ → TaskState σ × ρ) : Registry σ × Option ρ :=
  match r.task? id with
  | none => (r, none)
  | some task =>
    let (state, result) := job task
    (r.updateState id fun _ => state, some result)

/-! ## Loading -/

def skippedEvent (id : String) (e : FilterError) : Event :=
  ⟨.warn, "filter rule skipped", [("task", id), ("error", e.diagnostic.text)]⟩

/-- Adds rules to filters. Those that are invalid are skipped, unless the first of them is to stop
everything. -/
def addRules (d : Definitions) (strict : Bool) (id : String) :
    Filters → List String → Logged (Except FilterError (Filters × List FilterError))
  | filters, [] => ⟨.ok (filters, []), []⟩
  | filters, rule :: rest =>
    if rule = requestAll then addRules d strict id filters rest
    else match filters.compatibleRule d rule with
      | .ok ns => filters.insert rule ns >>= fun more => addRules d strict id more rest
      | .error e =>
        if strict then ⟨.error e, []⟩
        else
          let others := addRules d strict id filters rest
          ⟨others.value.map fun (filters, skipped) => (filters, e :: skipped),
            skippedEvent id e :: others.events⟩

/-- The filters of a task, and the errors of the rules that were skipped. -/
def readRules (r : Registry σ) (id : String) (rules : List String) :
    Logged (Except FilterError (Filters × List FilterError)) :=
  addRules r.catalog.definitions r.strict id { separator := r.catalog.options.separator } rules

def failedEvent (message id : String) (failure : Diagnostic) : Event :=
  ⟨.warn, message, [("task", id), ("error", failure.text)]⟩

def loadedEvent (id : String) (filters : Filters) (skipped : List FilterError) : Event :=
  ⟨.info, "task loaded", [("task", id), ("rules", toString filters.listRules.length),
    ("skipped", toString skipped.length)]⟩

/-- Loads a task whose configuration and filters are known, unless the hook fails. -/
def enter (r : Registry σ) (task : Task σ) (filters : Filters) (skipped : List FilterError)
    (hook : Hook σ ρ) : Logged (Registry σ × Except TaskError LoadReport × Option ρ) :=
  let id := task.id
  let (state, ended) := hook task
  match ended.failure? with
  | some failure =>
    ⟨(r, .error (.loading id failure), some ended.result),
      [failedEvent "task setup failed" id failure]⟩
  | none =>
    ⟨(r.put id { task := { task with state }, filters }, .ok ⟨skipped⟩, some ended.result),
      [loadedEvent id filters skipped]⟩

/-- Loads a task. The hook runs last; its result is there if it ran. -/
def load (r : Registry σ) (id : String) (config : Json) (rules : List String) (hook : Hook σ ρ) :
    Logged (Registry σ × Except TaskError LoadReport × Option ρ) :=
  if r.isLoaded id then pure (r, .error (.alreadyLoaded id), none)
  else match Task.create id config with
    | .error e => pure (r, .error (.invalidConfig id e), none)
    | .ok task => do
      match ← r.readRules id rules with
      | .error e => pure (r, .error (.invalidFilter id e), none)
      | .ok (filters, skipped) => r.enter task filters skipped hook

/-! ## Unloading -/

/-- Unloads a task that is not busy, unless the hook fails. -/
def unload (r : Registry σ) (id : String) (hook : Hook σ ρ) :
    Logged (Registry σ × Except TaskError Unit × Option ρ) :=
  match r.loaded? id with
  | none => pure (r, .error (.unknownTask id), none)
  | some entry =>
    if entry.busy then pure (r, .error (.busy id), none)
    else
      let (state, ended) := hook entry.task
      match ended.failure? with
      | some failure =>
        ⟨(r.updateState id fun _ => state, .error (.unloading id failure), some ended.result),
          [failedEvent "task release failed" id failure]⟩
      | none =>
        ⟨({ r with tasks := r.tasks.erase id }, .ok (), some ended.result),
          [⟨.info, "task unloaded", [("task", id)]⟩]⟩

/-! ## Collecting -/

/-- Begins a collection of a task that is not busy. -/
def acquire (r : Registry σ) (id : String) : Except TaskError (Registry σ × Collection σ) :=
  match r.loaded? id with
  | none => .error (.unknownTask id)
  | some entry =>
    if entry.busy then .error (.busy id)
    else .ok (r.put id { entry with busy := true },
      { task := entry.task, catalog := r.catalog, filters := entry.filters })

/-- Keeps what the task of a collection has stored. -/
def keep (r : Registry σ) (c : Collection σ) : Registry σ :=
  r.updateState c.task.id fun _ => c.task.state

/-- Ends a collection; the task keeps what it stored and is free again. -/
def release (r : Registry σ) (c : Collection σ) : Registry σ :=
  (r.keep c).modify c.task.id ({ · with busy := false })

def completedEvent (id : String) (collected : Collected) : Event :=
  ⟨.debug, "collection completed", [("task", id),
    ("metrics", toString collected.metrics.length),
    ("warnings", toString collected.warnings.length)]⟩

/-- What a collection gathered, unless it failed. -/
def outcome (c : Collection σ) (failure? : Option Diagnostic) :
    Logged (Except TaskError Collected) :=
  let id := c.task.id
  match failure? with
  | some failure =>
    ⟨.error (.collecting id failure), [failedEvent "collection failed" id failure]⟩
  | none => ⟨.ok c.finish, [completedEvent id c.finish]⟩

end Registry

/-- The collection with what its task keeps by now. -/
def Collection.resume {σ : Type} (c : Collection σ) (r : Registry σ) : Collection σ :=
  match r.task? c.task.id with
  | none => c
  | some task => { c with task }

end Telemetry

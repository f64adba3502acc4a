import Telemetry.Registry.Basic

/-!
# Routines

What a collector does in a collection: one action after the other, each chosen by the replies to
those before. It works on its own collection, and it may turn to the registry, even for other
collections.

* `Action`, `Collection.perform`: what is done to the collection itself.
* `Command`, `Registry.serve`: what is asked of the registry.
* `Routine`: actions, commands and inner collections in turn, up to success or failure.
* `Routine.run`: runs a routine within a collection.
* `Registry.collect`: a whole collection.
-/

namespace Telemetry

open Log

/-! ## Actions -/

inductive Action (σ : Type) where
  | addMetric (now : Instant) (path : String) (value : Value) (modifiers : List Modifier)
  | shouldProcess (path : String)
  | register (selector : String) (modifiers : List Modifier)
  | dismiss (handle : Nat)
  | dismissAll
  | warn (now : Instant) (message : String)
  | store (key : String) (value : σ)
  | remove (key : String)
  /-- Sees the collection as it is. -/
  | look

abbrev Action.Reply {σ : Type} : Action σ → Type
  | addMetric .. => Except MetricError Admission
  | shouldProcess _ => Bool
  | register .. => Except SelectorError Nat
  | look => Collection σ
  | _ => Unit

namespace Collection

variable {σ : Type}

def withTask (c : Collection σ) (change : Task σ → Task σ) : Collection σ :=
  { c with task := change c.task }

def perform (c : Collection σ) : (a : Action σ) → Logged (Collection σ × a.Reply)
  | .addMetric now path value modifiers => c.addMetric now path value modifiers
  | .shouldProcess path => do return (c, ← c.shouldProcess path)
  | .register selector modifiers =>
    match c.register selector modifiers with
    | .error e => pure (c, .error e)
    | .ok (c, handle) => pure (c, .ok handle)
  | .dismiss handle => pure (c.dismiss handle, ())
  | .dismissAll => pure (c.dismissAll, ())
  | .warn now message => do return (← c.addWarning now message, ())
  | .store key value => pure (c.withTask (·.store key value), ())
  | .remove key => pure (c.withTask (·.remove key), ())
  | .look => pure (c, c)

end Collection

/-! ## Commands -/

inductive Command (σ ρ : Type) where
  | load (id : String) (config : Json) (rules : List String) (hook : Hook σ ρ)
  | unload (id : String) (hook : Hook σ ρ)
  /-- Runs code on a loaded task, which says what the task keeps. -/
  | visit (id : String) (job : Task σ → TaskState σ × ρ)
  /-- Sees the registry as it is. -/
  | look

abbrev Command.Reply {σ ρ : Type} : Command σ ρ → Type
  | load .. => Except TaskError LoadReport × Option ρ
  | unload .. => Except TaskError Unit × Option ρ
  | visit .. => Option ρ
  | look => Registry σ

def Registry.serve {σ ρ : Type} (r : Registry σ) :
    (q : Command σ ρ) → Logged (Registry σ × q.Reply)
  | .load id config rules hook => r.load id config rules hook
  | .unload id hook => r.unload id hook
  | .visit id job => pure (r.visit id job)
  | .look => pure (r, r)

/-! ## Routines -/

inductive Routine (σ ρ : Type) where
  | finish (result : ρ)
  | fail (failure : Diagnostic) (result : ρ)
  | act (action : Action σ) (next : action.Reply → Routine σ ρ)
  | ask (command : Command σ ρ) (next : command.Reply → Routine σ ρ)
  /-- Runs a collection of a task in between. -/
  | collect (id : String) (body : Routine σ ρ)
    (next : Except TaskError Collected × Option ρ → Routine σ ρ)

instance {σ ρ : Type} [Inhabited ρ] : Inhabited (Routine σ ρ) := ⟨.finish default⟩

/-- What runs within a collection, beside the registry that it belongs to. -/
abbrev Job (σ ρ : Type) :=
  Registry σ → Collection σ → Logged (Registry σ × Collection σ × Ended ρ)

/-- A whole collection. The task is busy as long as the job runs; the job's result is there if it
ran. -/
def Registry.collectBy {σ ρ : Type} (r : Registry σ) (id : String) (job : Job σ ρ) :
    Logged (Registry σ × Except TaskError Collected × Option ρ) :=
  match r.acquire id with
  | .error e => pure (r, .error e, none)
  | .ok (r, c) => do
    let (r, c, ended) ← job r c
    let collected ← Registry.outcome c ended.failure?
    return (r.release c, collected, some ended.result)

namespace Routine

variable {σ ρ : Type}

/-- Runs the routine. Before it turns to the registry, the registry learns what the task keeps, and
afterwards the collection does. -/
def run : Routine σ ρ → Job σ ρ
  | finish result, r, c => pure (r, c, ⟨result, none⟩)
  | fail failure result, r, c => pure (r, c, ⟨result, some failure⟩)
  | act action next, r, c => do
    let (c, reply) ← c.perform action
    (next reply).run r c
  | ask command next, r, c => do
    let (r, reply) ← (r.keep c).serve command
    (next reply).run r (c.resume r)
  | collect id body next, r, c => do
    let (r, reply) ← (r.keep c).collectBy id fun r c => body.run r c
    (next reply).run r (c.resume r)

end Routine

def Registry.collect {σ ρ : Type} (r : Registry σ) (id : String) (routine : Routine σ ρ) :
    Logged (Registry σ × Except TaskError Collected × Option ρ) :=
  r.collectBy id routine.run

end Telemetry

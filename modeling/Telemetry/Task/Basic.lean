import Telemetry.Task.Configuration
import Telemetry.Task.State

/-!
# Tasks

A task has a configuration, which never changes, and a state.

* `Task.create`: a task from its configuration, which must be an object; `null` stands for an empty
  one.
* `Task.config?`, `Task.configKeys`: the configuration by dotted paths.
* `Task.store`, `Task.load`, `Task.remove`: the state.
-/

namespace Telemetry

/-- A configuration that is no object, by the kind of value that it is. -/
structure ConfigurationError where
  found : String
deriving Repr, DecidableEq

def ConfigurationError.diagnostic (e : ConfigurationError) : Diagnostic :=
  ⟨"task configuration must be a JSON object, found " ++ e.found, []⟩

structure Task (σ : Type) where
  id : String
  rawConfig : Json
  config : SortedMap String
  state : TaskState σ

namespace Task

variable {σ τ : Type}

def kindName : Json → String
  | .null | .invalid => "null"
  | .bool _ => "a boolean"
  | .number _ => "a number"
  | .string _ => "a string"
  | .array _ => "an array"
  | .object _ => "an object"

def ofObject (id : String) (config : Json) : Task σ :=
  { id, rawConfig := config, config := Configuration.flatten config, state := .empty }

def create (id : String) : Json → Except ConfigurationError (Task σ)
  | .null => .ok (ofObject id (.object []))
  | .object members => .ok (ofObject id (.object members))
  | other => .error ⟨kindName other⟩

def config? (t : Task σ) (key : String) : Option String := t.config.get? key

def configKeys (t : Task σ) : List String := t.config.keys

/-- Keeps a value; an earlier one with the same key is replaced. -/
def store (t : Task σ) (key : String) (value : σ) : Task σ :=
  { t with state := t.state.insert key value }

def load (t : Task σ) (key : String) (expected : StateType σ τ) : Except StateError τ :=
  t.state.load key expected

def stores (t : Task σ) (key : String) : Bool := t.state.contains key

def remove (t : Task σ) (key : String) : Task σ := { t with state := t.state.erase key }

end Task

end Telemetry

import Telemetry.Diagnostic
import Telemetry.SortedMap

/-!
# The state of a task

Values of any type that are kept between the collections of a task. Here `σ` is the type of all
values that may be kept.

* `StateType`: a type of values that may be asked for.
* `TaskState.load`: the value under a key, which must be of the type that is asked for.
-/

namespace Telemetry

/-- A type that some of the kept values have: its name, and these values as values of it. -/
structure StateType (σ τ : Type) where
  name : String
  of? : σ → Option τ

inductive StateError where
  | notFound (key : String)
  | typeMismatch (key expected : String)
deriving Repr, DecidableEq

def StateError.message : StateError → String
  | notFound key => "no state stored under '" ++ key ++ "'"
  | typeMismatch key expected =>
    "state stored under '" ++ key ++ "' is not of type " ++ expected

def StateError.diagnostic (e : StateError) : Diagnostic := ⟨e.message, []⟩

abbrev TaskState (σ : Type) := SortedMap σ

namespace TaskState

def load {σ τ : Type} (state : TaskState σ) (key : String) (expected : StateType σ τ) :
    Except StateError τ :=
  match state.get? key with
  | none => .error (.notFound key)
  | some kept =>
    match expected.of? kept with
    | none => .error (.typeMismatch key expected.name)
    | some value => .ok value

end TaskState

end Telemetry

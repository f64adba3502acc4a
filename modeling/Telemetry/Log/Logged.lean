import Telemetry.Log.Event

/-!
# Results with their log

* `Logged`: a result and what was logged on the way to it, in order.
* `Logged.bind`: going on with a result; what is logged then comes after.
-/

namespace Telemetry.Log

structure Logged (α : Type) where
  value : α
  events : List Event

namespace Logged

variable {α β : Type}

def pure (a : α) : Logged α := ⟨a, []⟩

def bind (x : Logged α) (f : α → Logged β) : Logged β :=
  ⟨(f x.value).value, x.events ++ (f x.value).events⟩

instance : Monad Logged where
  pure := Logged.pure
  bind := Logged.bind

@[simp] theorem value_pure (a : α) : (Pure.pure a : Logged α).value = a := rfl

@[simp] theorem value_bind (x : Logged α) (f : α → Logged β) :
    (x >>= f).value = (f x.value).value := rfl

end Logged

end Telemetry.Log

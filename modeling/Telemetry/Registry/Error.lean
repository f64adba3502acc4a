import Telemetry.Rule.Error
import Telemetry.Task.Basic

/-!
# Errors of the registry

* `TaskError`: why a request about a task is refused or fails.
-/

namespace Telemetry

inductive TaskError where
  | alreadyLoaded (task : String)
  | unknownTask (task : String)
  | busy (task : String)
  | invalidConfig (task : String) (cause : ConfigurationError)
  | invalidFilter (task : String) (cause : FilterError)
  | loading (task : String) (cause : Diagnostic)
  | unloading (task : String) (cause : Diagnostic)
  | collecting (task : String) (cause : Diagnostic)
deriving Repr, DecidableEq

def TaskError.diagnostic : TaskError → Diagnostic
  | alreadyLoaded task => ⟨"task '" ++ task ++ "' is already loaded", []⟩
  | unknownTask task => ⟨"task '" ++ task ++ "' is not loaded", []⟩
  | busy task => ⟨"another request for task '" ++ task ++ "' is in progress", []⟩
  | invalidConfig task cause =>
    .wrap ("invalid configuration for task '" ++ task ++ "'") cause.diagnostic
  | invalidFilter task cause => .wrap ("invalid filters for task '" ++ task ++ "'") cause.diagnostic
  | loading task cause => .wrap ("loading task '" ++ task ++ "' failed") cause
  | unloading task cause => .wrap ("unloading task '" ++ task ++ "' failed") cause
  | collecting task cause => .wrap ("collection of task '" ++ task ++ "' failed") cause

end Telemetry

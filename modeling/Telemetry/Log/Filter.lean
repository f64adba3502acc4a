import Telemetry.Log.Settings
import Telemetry.Unicode.Character

/-!
# Filters of the log

A directive sets the threshold of all targets that begin with its own, or of all targets if it has
none. Of the directives for a target, the one with the longest target of its own counts.

* `Directive.parse?`, `Filter.parse?`: directives as texts, and several of them between commas.
* `Filter.threshold`: the threshold of a target.
* `Filter.ofThreshold`: the filter that sets some targets apart from all others.
-/

namespace Telemetry.Log

structure Directive where
  target : Option String := none
  threshold : Threshold
deriving Repr, DecidableEq

/-- A threshold by its name in any case, or by its distance from silence. -/
def Threshold.parse? (text : String) : Option Threshold :=
  Threshold.all.find? fun t => t.name == text.toLower || toString t.verbosity == text

namespace Directive

def isTargetChar (c : Char) : Bool :=
  c == ':' || c == '-' || Unicode.wordCharacters.contains c.toNat

/-- A target as part of a directive; a word that names a threshold is no target. -/
def parseTarget? (text : String) : Option (Option String) :=
  if text.isEmpty || !text.toList.all isTargetChar then none
  else if (Threshold.parse? text).isSome then some none
  else some (some text)

/-- A threshold for all targets, or a target with its threshold, without which all its events are
logged. -/
def parse? (text : String) : Option Directive :=
  let (target, rest) := text.toList.span (· != '=')
  let level := String.ofList (rest.drop 1)
  match Threshold.parse? text with
  | some threshold => some { threshold }
  | none => do
    let target ← parseTarget? (String.ofList target)
    let threshold ← if level.isEmpty then some (.upTo .trace) else Threshold.parse? level
    return { target, threshold }

def covers (d : Directive) (target : String) : Bool :=
  d.target.all fun own => own.toList.isPrefixOf target.toList

def specificity (d : Directive) : Nat := d.target.elim 0 fun own => own.length + 1

end Directive

abbrev Filter := List Directive

namespace Filter

/-- The directive that counts for a target: the most specific one, or the last of several. -/
def directive? (f : Filter) (target : String) : Option Directive :=
  f.foldl (fun best d =>
    if d.covers target && best.all (·.specificity ≤ d.specificity) then some d else best) none

/-- The threshold of a target; without a directive for it, nothing is logged. -/
def threshold (f : Filter) (target : String) : Threshold :=
  (f.directive? target).elim .off (·.threshold)

def passes (f : Filter) (target : String) (level : Level) : Bool := (f.threshold target).passes level

/-- Directives between commas. Empty ones are skipped, and there is no filter if another cannot be
read. -/
def parse? (text : String) : Option Filter :=
  ((text.splitOn ",").filter (!·.isEmpty)).mapM Directive.parse?

/-- The filter with a threshold for some targets; from others nothing beyond information is logged. -/
def ofThreshold (own : List String) (threshold : Threshold) : Filter :=
  { threshold := threshold.stricter (.upTo .info) } ::
    own.map fun target => { target := some target, threshold }

end Filter

end Telemetry.Log

import Telemetry.Log.Logged
import Telemetry.Rule.Definitions

/-!
# Filters

The rules that a task asks for. A metric is admitted if some rule matches it, and every metric is
admitted if there are no rules.

* `Filters.addRule`: adds a rule.
* `Filters.addCompatibleRule`: adds a rule that can match a defined metric.
* `Filters.accepts`: whether some rule matches a metric.
* `Filters.acceptsPrefix`: whether some rule matches a metric that begins in this way.
-/

namespace Telemetry

open Log (Logged)

structure Filters where
  separator : Char := defaultSeparator
  branches : Branches := .empty

namespace Filters

def hasRules (f : Filters) : Bool := !f.branches.isEmpty

def listRules (f : Filters) : List String := f.branches.rules f.separator

/-! ## Adding rules -/

def parseRule (f : Filters) (rule : String) : Except FilterError Namespace :=
  match Namespace.parse f.separator true rule with
  | .error e => .error (.ruleSyntax rule e)
  | .ok ns => .ok ns

/-- Adds a rule that has been read; one that is there already changes nothing. -/
def insert (f : Filters) (rule : String) (ns : Namespace) : Logged Filters :=
  let (branches, isNew) := f.branches.insert ns.elements
  ⟨{ f with branches }, [if isNew then ⟨.trace, "filter added", [("rule", rule)]⟩
    else ⟨.debug, "duplicate filter ignored", [("rule", rule)]⟩]⟩

def addRule (f : Filters) (rule : String) : Except FilterError Filters :=
  (f.parseRule rule).map fun ns => (f.insert rule ns).value

def flaw? (elements : List Element) (hasDefinitions : Bool) : Option FilterFlaw :=
  if elements.length < 2 then some .tooShort
  else if !(elements.head?.any Element.isName) then some .firstNotName
  else if !hasDefinitions && elements.any Element.isDynamic then some .noDefinitions
  else none

/-- What a rule is taken for beside some definitions. -/
def compatibleRule (f : Filters) (d : Definitions) (rule : String) :
    Except FilterError Namespace :=
  match f.parseRule rule with
  | .error e => .error e
  | .ok ns =>
    match flaw? ns.elements d.hasRules with
    | some flaw => .error (.unusable rule flaw)
    | none => if d.meetsFilter ns then .ok ns else .error (.noMatchingDefinition rule)

/-- Adds a rule if it can admit some defined metric. -/
def addCompatibleRule (f : Filters) (d : Definitions) (rule : String) :
    Except FilterError Filters :=
  (f.compatibleRule d rule).map fun ns => (f.insert rule ns).value

/-! ## Matching -/

/-- The children that a candidate may go on to: all for `*`, or else the name that is its value
first and then the patterns that admit it. -/
def tried (b : Branches) (candidate : Element) : List Branch :=
  if candidate == .wildcard then b.nodes
  else (candidate.value?.bind b.literal?).toList ++ b.patterns.filter (·.element.admits candidate)

/-- Matches candidates below a node, going back to the next child where one fails. At their end a
rule must end too, unless an initial part of a rule is enough. -/
def walk (partly : Bool) : (isEnd : Bool) → Branches → List Element → Bool
  | isEnd, b, [] => partly || isEnd || b.hasTrailing
  | _, b, candidate :: rest => (tried b candidate).any fun n =>
    n.element == .trailing || walk partly n.isEnd n.children rest

def accepts (f : Filters) (ns : Namespace) : Bool :=
  !f.hasRules || walk false false f.branches ns.elements

def acceptsPrefix (f : Filters) (ns : Namespace) : Bool :=
  !f.hasRules || walk true false f.branches ns.elements

end Filters

end Telemetry

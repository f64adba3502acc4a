import Telemetry.Log.Event
import Telemetry.Rule.Branches
import Telemetry.Rule.Error

/-!
# Metric definitions

The metrics that may be emitted, as rules of names and unbound groups. On every level the rules that
begin alike go on either all by names or all by one group, so a metric follows at most one rule.

* `DefinitionOptions`: what is accepted beyond the rules.
* `Definitions.addRule`: adds a rule unless it is unusable or clashes with the others.
* `Definitions.resolve`: the groups that a metric binds along its rule.
* `Definitions.resolvesPrefix`, `Definitions.meetsFilter`: whether something below a path, or
  something that a filter admits, is defined.
-/

namespace Telemetry

structure DefinitionOptions where
  separator : Char := defaultSeparator
  /-- A rule may end in a group. -/
  dynamicLast : Bool := false
  /-- A metric that follows no rule is accepted if its first element begins one. -/
  undefinedMetrics : Bool := false
  /-- A metric may end on any level of a rule, and rules may be initial parts of others. -/
  anyLevel : Bool := false
deriving Repr, DecidableEq

structure Definitions where
  options : DefinitionOptions := {}
  branches : Branches := .empty

/-- The group that each position of a metric is bound to, if any. -/
abbrev Resolution := List (Option String)

namespace Resolution

def isStatic (r : Resolution) : Bool := r.all (·.isNone)

def groupAt (r : Resolution) (position : Nat) : Option String := r[position]?.join

/-- The path that the elements follow: groups where a position is bound, values elsewhere. -/
def key (r : Resolution) (ns : Namespace) : String :=
  String.ofList <| (ns.elements.zip r).flatMap fun (e, group) =>
    ns.separator :: match group with
      | some g => '[' :: (g.toList ++ [']'])
      | none => (e.value?.getD "").toList

end Resolution

namespace Definitions

def hasRules (d : Definitions) : Bool := !d.branches.isEmpty

def parse (d : Definitions) (text : String) : Except SyntaxError Namespace :=
  Namespace.parse d.options.separator false text

def setOptions (d : Definitions) (options : DefinitionOptions) : Definitions := { d with options }

def listRules (d : Definitions) : List String := d.branches.rules d.options.separator

/-! ## Adding rules -/

def isDefinitionElement : Element → Bool
  | .name _ | .group _ => true
  | _ => false

/-- What keeps a path from being a definition on its own. -/
def flaw? (options : DefinitionOptions) (elements : List Element) : Option DefinitionFlaw :=
  if elements.length < 2 then some .tooShort
  else if !(elements.head?.any Element.isName) then some .firstNotName
  else if !elements.all isDefinitionElement then some .otherElements
  else if elements.getLast?.any Element.isDynamic && !options.dynamicLast then some .lastNotName
  else none

/-- How an element clashes with the children that it would stand beside. -/
def clash? (b : Branches) (e : Element) : Option Ambiguity :=
  match b.kind, e with
  | .dynamic, .name _ => some .nameBesideGroup
  | .static, .group _ => some .groupBesideName
  | .dynamic, .group g =>
    if b.patterns.any (·.element.groupName? != some g) then some .differentGroups else none
  | _, _ => none

/-- Why a path does not fit in: it is there already, or it clashes at a position. -/
inductive Conflict where
  | present
  | ambiguous (position : Nat) (reason : Ambiguity)
deriving Repr, DecidableEq

/-- Follows the path as far as it exists and reports the first conflict on the way. -/
def conflict? (anyLevel : Bool) : (position : Nat) → Branches → List Element → Option Conflict
  | _, _, [] => none
  | position, b, e :: rest =>
    match clash? b e with
    | some reason => some (.ambiguous position reason)
    | none =>
      match b.child? e with
      | none => none
      | some n =>
        if rest.isEmpty then
          if n.isEnd then some .present
          else if anyLevel then none
          else some (.ambiguous position .prefixOfRule)
        else if n.isEnd && !anyLevel then some (.ambiguous position .extendsRule)
        else conflict? anyLevel (position + 1) n.children rest

/-- Adds a rule; the definitions are as before if it is refused. -/
def addRule (d : Definitions) (rule : String) : Except DefinitionError Definitions :=
  match d.parse rule with
  | .error e => .error (.ruleSyntax rule e)
  | .ok ns =>
    match flaw? d.options ns.elements with
    | some flaw => .error (.unusable rule flaw)
    | none =>
      match conflict? d.options.anyLevel 0 d.branches ns.elements with
      | some .present => .error (.duplicate rule)
      | some (.ambiguous position reason) => .error (.ambiguous rule position reason)
      | none => .ok { d with branches := d.branches.add ns.elements }

def addedEvent (rule : String) : Log.Event :=
  ⟨.trace, "metric definition added", [("rule", rule)]⟩

/-! ## Following a metric -/

/-- The child that an element of a metric follows: the name that it is, or else a group that admits
it. -/
def follow? (b : Branches) (e : Element) : Option Branch :=
  let group := b.pattern? (·.admits e)
  match e with
  | .name text => (b.literal? text).or group
  | .bound _ _ => group
  | _ => none

def resolveFrom (anyLevel : Bool) : (isEnd : Bool) → Branches → List Element → Option Resolution
  | isEnd, _, [] => if isEnd || anyLevel then some [] else none
  | _, b, e :: rest =>
    match follow? b e with
    | none => none
    | some n => (resolveFrom anyLevel n.isEnd n.children rest).map (n.element.groupName? :: ·)

/-- Whether a metric without a rule of its own is accepted. -/
def acceptsUndefined (d : Definitions) (ns : Namespace) : Bool :=
  d.options.undefinedMetrics && ns.elements.head?.any fun e => (follow? d.branches e).isSome

def resolveRule (d : Definitions) (ns : Namespace) : Option Resolution :=
  resolveFrom d.options.anyLevel false d.branches ns.elements

/-- The groups that a metric is bound to, or nothing if it is not accepted. Nothing is bound where
there are no rules, or in a metric that follows none. -/
def resolve (d : Definitions) (ns : Namespace) : Option Resolution :=
  if !d.hasRules then some (ns.elements.map fun _ => none)
  else (d.resolveRule ns).or <|
    if d.acceptsUndefined ns then some (ns.elements.map fun _ => none) else none

/-! ## Prefixes and filters -/

def isPrefixOf : Branches → List Element → Bool
  | _, [] => true
  | b, .wildcard :: rest => b.nodes.any fun n => isPrefixOf n.children rest
  | b, e :: rest =>
    match follow? b e with
    | none => false
    | some n => isPrefixOf n.children rest

/-- Whether the path is an initial part of an accepted metric, where `*` stands for any element. -/
def resolvesPrefix (d : Definitions) (ns : Namespace) : Bool :=
  !d.hasRules || d.acceptsUndefined ns || isPrefixOf d.branches ns.elements

/-- Whether a filter element can stand for some value of a defined element. -/
def overlaps (filter : Element) : Element → Bool
  | .group g => filter.groupName?.all (· == g)
  | defined => !filter.isDynamic && filter.admits defined

def meets : Branches → List Element → Bool
  | _, [] => true
  | _, .trailing :: _ => true
  | b, f :: rest => b.nodes.any fun n => overlaps f n.element && meets n.children rest

/-- Whether a filter can admit a defined metric, or an initial part of one; only the first element
counts where undefined metrics are accepted. -/
def meetsFilter (d : Definitions) (filter : Namespace) : Bool :=
  !d.hasRules ||
    meets d.branches (if d.options.undefinedMetrics then filter.elements.take 1 else filter.elements)

end Definitions

end Telemetry

import Telemetry.Namespace.Error

/-!
# Errors of adding rules

* `DefinitionError`: why a metric definition is refused.
* `FilterError`: why a filter is refused.
-/

namespace Telemetry

inductive DefinitionFlaw where
  | tooShort
  | firstNotName
  | otherElements
  | lastNotName
deriving Repr, DecidableEq

def DefinitionFlaw.message : DefinitionFlaw → String
  | tooShort => "at least two elements are required"
  | firstNotName => "the first element must be static"
  | otherElements => "only names and unbound groups are allowed"
  | lastNotName => "the last element must be static"

/-- How a definition clashes with one that was accepted before. -/
inductive Ambiguity where
  | nameBesideGroup
  | groupBesideName
  | differentGroups
  | prefixOfRule
  | extendsRule
deriving Repr, DecidableEq

def Ambiguity.message : Ambiguity → String
  | nameBesideGroup => "static element next to dynamic elements"
  | groupBesideName => "dynamic element next to static elements"
  | differentGroups => "different dynamic groups at the same level"
  | prefixOfRule => "metric is a prefix of a defined metric"
  | extendsRule => "metric extends a defined metric"

inductive DefinitionError where
  | ruleSyntax (rule : String) (cause : SyntaxError)
  | unusable (rule : String) (flaw : DefinitionFlaw)
  | ambiguous (rule : String) (position : Nat) (reason : Ambiguity)
  | duplicate (rule : String)
deriving Repr, DecidableEq

def DefinitionError.diagnostic : DefinitionError → Diagnostic
  | ruleSyntax rule cause => .wrap ("invalid metric definition '" ++ rule ++ "'") cause.diagnostic
  | unusable rule flaw => ⟨"metric definition '" ++ rule ++ "' is not usable: " ++ flaw.message, []⟩
  | ambiguous rule position reason =>
    ⟨"metric definition '" ++ rule ++ "' is ambiguous at element " ++ toString position ++ ": " ++
      reason.message, []⟩
  | duplicate rule => ⟨"metric definition '" ++ rule ++ "' is already defined", []⟩

inductive FilterFlaw where
  | tooShort
  | firstNotName
  | noDefinitions
deriving Repr, DecidableEq

def FilterFlaw.message : FilterFlaw → String
  | tooShort => "at least two elements required"
  | firstNotName => "first element must be a static name"
  | noDefinitions => "dynamic elements require metric definitions"

inductive FilterError where
  | ruleSyntax (rule : String) (cause : SyntaxError)
  | unusable (rule : String) (flaw : FilterFlaw)
  | noMatchingDefinition (rule : String)
deriving Repr, DecidableEq

def FilterError.diagnostic : FilterError → Diagnostic
  | ruleSyntax rule cause => .wrap ("invalid filter '" ++ rule ++ "'") cause.diagnostic
  | unusable rule flaw => ⟨"filter '" ++ rule ++ "' is not usable: " ++ flaw.message, []⟩
  | noMatchingDefinition rule =>
    ⟨"filter '" ++ rule ++ "' does not match any defined metric", []⟩

end Telemetry

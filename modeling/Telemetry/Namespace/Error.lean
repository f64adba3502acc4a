import Telemetry.Diagnostic
import Telemetry.Regex.Syntax

/-!
# Errors of reading and matching namespaces

* `SyntaxError`: why a text is no namespace or no element.
* `MatchError`: why a namespace cannot be matched to a filter.
-/

namespace Telemetry

inductive SyntaxError where
  | noElements
  | missingRoot (separator : Char)
  | emptyElement (position : Nat)
  | unbalancedBrackets (text : String)
  | invalidElement (token : String)
  | invalidPattern (token : String) (fault : Regex.Fault)
  | trailingNotAllowed
  | trailingNotLast
deriving Repr, DecidableEq

def Regex.Fault.message : Regex.Fault → String
  | .illFormed => "<regex error>"
  | .tooLarge => "Compiled regex exceeds size limit of 10485760 bytes."

namespace SyntaxError

def message : SyntaxError → String
  | noElements => "namespace is empty"
  | missingRoot separator => "namespace must start with '" ++ separator.toString ++ "'"
  | emptyElement position => "empty element at position " ++ toString position
  | unbalancedBrackets text => "unbalanced brackets in element '" ++ text ++ "'"
  | invalidElement token => "invalid element '" ++ token ++ "'"
  | invalidPattern token fault => "invalid pattern in element '" ++ token ++ "': " ++ fault.message
  | trailingNotAllowed => "recursive wildcard '**' is only allowed in filters"
  | trailingNotLast => "recursive wildcard '**' must be the last element"

def diagnostic (e : SyntaxError) : Diagnostic := ⟨e.message, []⟩

end SyntaxError

inductive MatchError where
  | namespaceSyntax (cause : SyntaxError)
  | notConcrete (text : String)
  | filterSyntax (cause : SyntaxError)
  | tooFewElements (present required : Nat)
deriving Repr, DecidableEq

namespace MatchError

def diagnostic : MatchError → Diagnostic
  | namespaceSyntax cause => .wrap "invalid namespace" cause.diagnostic
  | notConcrete text => ⟨"invalid format of the namespace '" ++ text ++ "'", []⟩
  | filterSyntax cause => .wrap "invalid filter" cause.diagnostic
  | tooFewElements present required =>
    ⟨"too few elements in namespace: filter needs " ++ toString required ++ ", namespace has " ++
      toString present, []⟩

end MatchError

end Telemetry

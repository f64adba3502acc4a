import Telemetry.Namespace.Basic

/-!
# Reading namespaces

* `Namespace.tokens`: cuts a path at the separators that no bracket encloses.
* `Namespace.parse`: reads a path; `**` may end it in filters only.
* `Namespace.matchText`: matches a written path to a written filter.
-/

namespace Telemetry.Namespace

/-! ## Tokens -/

/-- Cuts the text at separators outside of brackets; `depth` brackets are open and `token` has been
read of the current token, in reverse. -/
def tokensFrom (separator : Char) : (depth : Nat) → (token : List Char) → List Char →
    Except SyntaxError (List (List Char))
  | depth, token, [] =>
    if depth = 0 then .ok [token.reverse]
    else .error (.unbalancedBrackets (String.ofList token.reverse))
  | depth, token, c :: cs =>
    if c = '[' ∨ c = '{' then tokensFrom separator (depth + 1) (c :: token) cs
    else if c = ']' ∨ c = '}' then tokensFrom separator (depth - 1) (c :: token) cs
    else if c = separator ∧ depth = 0 then
      (tokensFrom separator 0 [] cs).map (token.reverse :: ·)
    else tokensFrom separator depth (c :: token) cs

def tokens (separator : Char) (cs : List Char) : Except SyntaxError (List (List Char)) :=
  tokensFrom separator 0 [] cs

/-! ## Elements -/

/-- Reads the tokens in turn, the first of them at the given position. -/
def elementsFrom (filter : Bool) : (position : Nat) → List (List Char) →
    Except SyntaxError (List Element)
  | _, [] => .ok []
  | position, token :: rest =>
    if token.isEmpty then .error (.emptyElement position)
    else match Element.ofChars token with
      | .error e => .error e
      | .ok element =>
        if element = .trailing ∧ filter = false then .error .trailingNotAllowed
        else if element = .trailing ∧ rest ≠ [] then .error .trailingNotLast
        else (elementsFrom filter (position + 1) rest).map (element :: ·)

def ofChars (separator : Char) (filter : Bool) : List Char → Except SyntaxError Namespace
  | [] => .error .noElements
  | c :: rest =>
    if c ≠ separator then .error (.missingRoot separator)
    else if rest.isEmpty then .error .noElements
    else match tokens separator rest with
      | .error e => .error e
      | .ok tokens => (elementsFrom filter 0 tokens).map (⟨separator, ·⟩)

/-- Reads a path: a separator before every element, and a trailing `**` in filters only. -/
def parse (separator : Char) (filter : Bool) (text : String) : Except SyntaxError Namespace :=
  ofChars separator filter text.toList

/-! ## Matching texts -/

/-- Matches a written path to a written filter. An empty filter, or the separator alone, matches
every concrete path. -/
def matchText (separator : Char) (text filter : String) : Except MatchError Bool :=
  match parse separator false text with
  | .error e => .error (.namespaceSyntax e)
  | .ok ns =>
    if !ns.isConcrete true then .error (.notConcrete text)
    else if filter.toList = [] ∨ filter.toList = [separator] then .ok true
    else match parse separator true filter with
      | .error e => .error (.filterSyntax e)
      | .ok filter => ns.matchesFilter filter

end Telemetry.Namespace

import Telemetry.Element.Basic
import Telemetry.Namespace.Error

/-!
# Reading elements

* `isIdentifier`: what names, groups and bound values are made of.
* `Element.parse`: the element that a token denotes.
-/

namespace Telemetry

/-- Names, groups and bound values are ASCII letters, digits, underscores, hyphens and dots, at
least one. -/
def isIdentifierChar (c : Char) : Bool :=
  c.isAlphanum || c == '_' || c == '-' || c == '.'

def isIdentifier (cs : List Char) : Bool := !cs.isEmpty && cs.all isIdentifierChar

namespace Element

/-- What stands between an opening and a closing bracket, or nothing if the token has neither. -/
def enclosed (opening closing : Char) (token : List Char) :
    Except SyntaxError (Option (List Char)) :=
  let closes := token.getLast? == some closing
  match token with
  | c :: rest =>
    if c = opening then
      if closes && !rest.isEmpty then .ok (some rest.dropLast)
      else .error (.unbalancedBrackets (String.ofList token))
    else if closes then .error (.unbalancedBrackets (String.ofList token))
    else .ok none
  | [] => .ok none

def compilePattern (token raw : List Char) : Except SyntaxError Pattern :=
  if raw.isEmpty then .error (.invalidElement (String.ofList token))
  else match Pattern.compile (String.ofList raw) with
    | .ok p => .ok p
    | .error fault => .error (.invalidPattern (String.ofList token) fault)

/-- Reads what stands between square brackets: a group, and behind an equals sign its value or
pattern. -/
def ofBracketed (token inner : List Char) : Except SyntaxError Element :=
  let group := inner.takeWhile (· != '=')
  if !isIdentifier group then .error (.invalidElement (String.ofList token))
  else match inner.dropWhile (· != '=') with
    | [] => .ok (.group (String.ofList group))
    | _ :: value =>
      match enclosed '{' '}' value with
      | .error e => .error e
      | .ok (some raw) => (compilePattern token raw).map (.groupPattern (String.ofList group))
      | .ok none =>
        if isIdentifier value then .ok (.bound (String.ofList group) (String.ofList value))
        else .error (.invalidElement (String.ofList token))

/-- Reads a token that may be braced or a name. -/
def ofUnbracketed (token : List Char) : Except SyntaxError Element :=
  match enclosed '{' '}' token with
  | .error e => .error e
  | .ok (some raw) => (compilePattern token raw).map .pattern
  | .ok none =>
    if isIdentifier token then .ok (.name (String.ofList token))
    else .error (.invalidElement (String.ofList token))

def ofChars (token : List Char) : Except SyntaxError Element :=
  match token with
  | [] => .error (.invalidElement "")
  | ['*'] => .ok .wildcard
  | ['*', '*'] => .ok .trailing
  | token =>
    match enclosed '[' ']' token with
    | .error e => .error e
    | .ok (some inner) => ofBracketed token inner
    | .ok none => ofUnbracketed token

/-- Reads one element. Whether `**` may stand where it does is left to the namespace. -/
def parse (token : String) : Except SyntaxError Element := ofChars token.toList

/-- Whether the element admits the one that a token denotes, if it denotes any. -/
def admitsToken (e : Element) (token : String) : Bool :=
  match parse token with
  | .ok candidate => e.admits candidate
  | .error _ => false

/-- Names, groups and bound values are identifiers, and patterns are not empty. -/
def WellFormed : Element → Prop
  | name text => isIdentifier text.toList
  | wildcard | trailing => True
  | pattern p => p.raw.toList ≠ []
  | group g => isIdentifier g.toList
  | bound g v => isIdentifier g.toList ∧ isIdentifier v.toList
  | groupPattern g p => isIdentifier g.toList ∧ p.raw.toList ≠ []

end Element

end Telemetry

import Telemetry.Yaml.Lexer
import Telemetry.Yaml.Node

/-!
# Reading YAML

* `readNode`: a node from the tokens in front.
* `readDocument`: a document with its directives.
* `parse`: the document of a text, which may hold at most one.
-/

namespace Telemetry.Yaml

/-- What handles stand for. -/
abbrev Handles := List (String × String)

def standardHandles : Handles := [("!", "!"), ("!!", "tag:yaml.org,2002:")]

/-- The tokens that are left, and the anchors so far. -/
structure Reading where
  tokens : List Token
  anchors : Anchors := {}

namespace Reading

def next? (r : Reading) : Option Token := r.tokens.head?

def sees (r : Reading) (ts : List Token) : Bool := r.next?.any ts.contains

def skip (r : Reading) : Reading := { r with tokens := r.tokens.drop 1 }

end Reading

/-- What a node has besides its contents: a tag, and an anchor that has begun. -/
structure Properties where
  tag : Option String := none
  place : Option (Nat × Nat) := none

def Properties.isEmpty (p : Properties) : Bool := p.tag.isNone && p.place.isNone

def readAnchor (r : Reading) : Option (Nat × Nat) × Reading :=
  match r.next? with
  | some (.anchor name) =>
    let (place, anchors) := r.anchors.start name
    (some place, { r.skip with anchors })
  | _ => (none, r)

/-- A tag, if one is next, with what its handle stands for. -/
def readTagText? (handles : Handles) (r : Reading) : Option (Option String × Reading) :=
  match r.next? with
  | some (.tag "" suffix) => some (some suffix, r.skip)
  | some (.tag handle suffix) => do
    let (_, start) ← handles.find? (·.1 == handle)
    return (some (start ++ suffix), r.skip)
  | _ => some (none, r)

/-- An anchor and a tag in any order. -/
def readProperties (handles : Handles) (r : Reading) : Option (Properties × Reading) := do
  let (place, r) := readAnchor r
  let (tag, r) ← readTagText? handles r
  let (place, r) := if place.isNone then readAnchor r else (place, r)
  return ({ tag, place }, r)

/-- Gives a node its anchor. -/
def anchored (p : Properties) : Node × Reading → Node × Reading
  | (node, r) =>
    match p.place with
    | none => (node, r)
    | some place => (node, { r with anchors := r.anchors.record place node })

mutual
/-- Reads a node. Blocks begin only where they may; a sequence without indentation only as what
belongs to a key. -/
def readNode (handles : Handles) (block unindented : Bool) :
    (fuel : Nat) → Reading → Option (Node × Reading)
  | 0, _ => none
  | fuel + 1, r =>
    match r.next? with
    | some (.alias name) => do return (.alias (← r.anchors.number? name), r.skip)
    | _ => do
      let (p, r) ← readProperties handles r
      let contents ← match r.next? with
        | some (.scalar style text) => some (.scalar p.tag style text, r.skip)
        | some .flowSequenceStart =>
          (readFlowItems handles true fuel r.skip).map fun (items, r) => (.sequence p.tag items, r)
        | some .flowMappingStart =>
          (readFlowPairs handles true fuel r.skip).map fun (pairs, r) => (.mapping p.tag pairs, r)
        | some .blockSequenceStart =>
          if block then
            (readBlockItems handles fuel r.skip).map fun (items, r) => (.sequence p.tag items, r)
          else readNothing p r
        | some .blockMappingStart =>
          if block then
            (readBlockPairs handles fuel r.skip).map fun (pairs, r) => (.mapping p.tag pairs, r)
          else readNothing p r
        | some .blockEntry =>
          if unindented then
            (readUnindented handles fuel r).map fun (items, r) => (.sequence p.tag items, r)
          else readNothing p r
        | _ => readNothing p r
      return anchored p contents

/-- An empty scalar, if there are a tag or an anchor for it. -/
def readNothing (p : Properties) (r : Reading) : Option (Node × Reading) :=
  if p.isEmpty then none else some (.scalar p.tag .plain "", r)

/-- A node, or a missing scalar if one of these tokens is next. -/
def readNodeUnless (handles : Handles) (block unindented : Bool) (ends : List Token) :
    (fuel : Nat) → Reading → Option (Node × Reading)
  | 0, _ => none
  | fuel + 1, r =>
    if r.sees ends then some (.empty, r) else readNode handles block unindented fuel r

/-- The items of a block sequence up to its end. -/
def readBlockItems (handles : Handles) : (fuel : Nat) → Reading → Option (List Node × Reading)
  | 0, _ => none
  | fuel + 1, r =>
    match r.next? with
    | some .blockEntry => do
      let (item, r) ← readNodeUnless handles true false [.blockEntry, .blockEnd] fuel r.skip
      let (items, r) ← readBlockItems handles fuel r
      return (item :: items, r)
    | some .blockEnd => some ([], r.skip)
    | _ => none

def readUnindented (handles : Handles) : (fuel : Nat) → Reading → Option (List Node × Reading)
  | 0, _ => none
  | fuel + 1, r =>
    match r.next? with
    | some .blockEntry => do
      let (item, r) ←
        readNodeUnless handles true false [.blockEntry, .key, .value, .blockEnd] fuel r.skip
      let (items, r) ← readUnindented handles fuel r
      return (item :: items, r)
    | _ => some ([], r)

/-- The pairs of a block mapping up to its end. A key or a value may be missing. -/
def readBlockPairs (handles : Handles) :
    (fuel : Nat) → Reading → Option (List (Node × Node) × Reading)
  | 0, _ => none
  | fuel + 1, r =>
    let ends : List Token := [.key, .value, .blockEnd]
    match r.next? with
    | some .key => do
      let (key, r) ← readNodeUnless handles true true ends fuel r.skip
      let (value, r) ← if r.sees [.value] then readNodeUnless handles true true ends fuel r.skip
        else some (.empty, r)
      let (pairs, r) ← readBlockPairs handles fuel r
      return ((key, value) :: pairs, r)
    | some .blockEnd => some ([], r.skip)
    | _ => none

/-- The items of a flow sequence up to its bracket. A key makes a mapping of one pair. -/
def readFlowItems (handles : Handles) (first : Bool) :
    (fuel : Nat) → Reading → Option (List Node × Reading)
  | 0, _ => none
  | fuel + 1, r =>
    if r.sees [.flowSequenceEnd] then some ([], r.skip)
    else if !first && !r.sees [.flowEntry] then none
    else do
      let r := if first then r else r.skip
      if r.sees [.flowSequenceEnd] then some ([], r.skip)
      else
        let (item, r) ← if r.sees [.key] then readFlowPair handles fuel r.skip
          else readNode handles false false fuel r
        let (items, r) ← readFlowItems handles false fuel r
        return (item :: items, r)

/-- The only pair of a mapping among the items of a flow sequence. If its key is missing, so is its
value. -/
def readFlowPair (handles : Handles) : (fuel : Nat) → Reading → Option (Node × Reading)
  | 0, _ => none
  | fuel + 1, r => do
    let ends : List Token := [.flowEntry, .flowSequenceEnd]
    let (key, r) ← if r.sees (.value :: ends) then some (.empty, r.skip)
      else readNode handles false false fuel r
    let (value, r) ← if r.sees [.value] then readNodeUnless handles false false ends fuel r.skip
      else some (.empty, r)
    return (.mapping none [(key, value)], r)

/-- The pairs of a flow mapping up to its brace. A key may stand without its indicator, and then has
no value. -/
def readFlowPairs (handles : Handles) (first : Bool) :
    (fuel : Nat) → Reading → Option (List (Node × Node) × Reading)
  | 0, _ => none
  | fuel + 1, r =>
    let ends : List Token := [.flowEntry, .flowMappingEnd]
    if r.sees [.flowMappingEnd] then some ([], r.skip)
    else if !first && !r.sees [.flowEntry] then none
    else do
      let r := if first then r else r.skip
      if r.sees [.flowMappingEnd] then some ([], r.skip)
      else
        let (key, value, r) ←
          if r.sees [.key] then do
            let (key, r) ← readNodeUnless handles false false (.value :: ends) fuel r.skip
            let (value, r) ←
              if r.sees [.value] then readNodeUnless handles false false ends fuel r.skip
              else some (.empty, r)
            some (key, value, r)
          else do
            let (key, r) ← readNode handles false false fuel r
            some (key, .empty, r)
        let (pairs, r) ← readFlowPairs handles false fuel r
        return ((key, value) :: pairs, r)
end

/-! ## Documents -/

def isVersion : Token → Bool
  | .version .. => true
  | _ => false

def isDirective : Token → Bool
  | .version .. | .tagDirective .. => true
  | _ => false

/-- The handles of some directives, which must differ, beside the standard ones. There may be one
version, of which two are known. -/
def handles? (directives : List Token) : Option Handles :=
  let own := directives.filterMap fun
    | .tagDirective handle start => some (handle, start)
    | _ => none
  let known := directives.all fun
    | .version major minor => major == 1 && (minor == 1 || minor == 2)
    | _ => true
  if known ∧ (directives.filter isVersion).length ≤ 1 ∧ (own.map (·.1)).Nodup then
    some (own ++ standardHandles)
  else none

/-- Reads a document behind its directives. Only the first may begin without a mark, and then not
with nothing. -/
def readDocument (first : Bool) (tokens : List Token) : Option (Document × List Token) := do
  let (directives, rest) := tokens.span isDirective
  let handles ← handles? directives
  let fuel := 4 * tokens.length + 8
  let ends := fun t => isDirective t || t == .documentStart || t == .documentEnd
  let (root, r) ← match rest with
    | .documentStart :: rest =>
      if rest.head?.all ends then some (.empty, { tokens := rest })
      else readNode handles true false fuel { tokens := rest }
    | rest =>
      if first ∧ directives = [] then readNode handles true false fuel { tokens := rest } else none
  return ({ root := some root, anchors := r.anchors }, r.tokens)

/-- Reads the only document. An end mark may follow it, and nothing else. -/
def readOnly (tokens : List Token) : Option Document :=
  if tokens.isEmpty then some {}
  else do
    let (document, rest) ← readDocument true tokens
    if rest.all (· == .documentEnd) then some document else none

/-- The document of a text. -/
def parse (text : String) : Option Document := (tokens? text).bind readOnly

end Telemetry.Yaml

import Telemetry.Yaml.Scalar.Block
import Telemetry.Yaml.Scalar.Plain
import Telemetry.Yaml.Scalar.Quoted
import Telemetry.Yaml.Tag

/-!
# From text to tokens

Blocks are told by indentation: a token further to the right opens one, and a token further to the
left closes those that are deeper. That something is a key shows only at the colon behind it, within
the same line; the key's token then goes in front of it.

* `Lexer`: the position, the tokens so far, the open blocks and the possible keys.
* `Lexer.prepare`: goes to the next token, closing blocks on the way.
* `Lexer.fetch`: reads one token.
* `tokens?`: all tokens of a text.
-/

namespace Telemetry.Yaml

/-- Something that may turn out to be a key. -/
structure Candidate where
  /-- How many tokens stand before it. -/
  place : Nat
  /-- It begins where the keys of the block stand, so it has to be one. -/
  required : Bool
  cursor : Cursor
deriving Repr, DecidableEq

structure Lexer where
  cursor : Cursor
  tokens : List Token := []
  /-- The column of the innermost block, negative outside of all. -/
  indent : Int := -1
  /-- The columns of the blocks around it. -/
  outer : List Int := []
  /-- A key may begin here. -/
  keyAllowed : Bool := true
  /-- The candidate of every open flow collection, the innermost first, and last that of the block. -/
  candidates : List (Option Candidate) := [none]

namespace Lexer

/-- Whether the position is within a flow collection. -/
def inFlow (l : Lexer) : Bool := 1 < l.candidates.length

def push (l : Lexer) (t : Token) : Lexer := { l with tokens := l.tokens ++ [t] }

def insert (l : Lexer) (place : Nat) (t : Token) : Lexer :=
  { l with tokens := l.tokens.take place ++ t :: l.tokens.drop place }

def allowKey (l : Lexer) (allowed : Bool) : Lexer := { l with keyAllowed := allowed }

/-- Moves on and adds a token for what was passed. -/
def take (l : Lexer) (n : Nat) (t : Token) : Lexer :=
  { l.push t with cursor := l.cursor.skip n }

/-! ## Keys -/

def candidate? (l : Lexer) : Option Candidate := l.candidates.head?.join

def setCandidate (l : Lexer) (k : Option Candidate) : Lexer :=
  { l with candidates := k :: l.candidates.drop 1 }

/-- Gives up the candidate, unless it has to be a key. -/
def dropCandidate? (l : Lexer) : Option Lexer :=
  if l.candidate?.any (·.required) then none else some (l.setCandidate none)

/-- Takes what comes next for a candidate, where keys are allowed. -/
def saveCandidate? (l : Lexer) : Option Lexer :=
  if !l.keyAllowed then some l
  else
    let required := !l.inFlow && l.indent == (l.cursor.column : Int)
    l.dropCandidate?.map
      (·.setCandidate (some { place := l.tokens.length, required, cursor := l.cursor }))

/-- Candidates do not reach beyond their line, nor beyond this many characters. -/
def maxKeyLength : Nat := 1024

def isStale (now : Cursor) (k : Candidate) : Bool :=
  k.cursor.line < now.line || k.cursor.index + maxKeyLength < now.index

/-- Gives up the candidates that are too far back, unless one of them has to be a key. -/
def dropStale? (l : Lexer) : Option Lexer :=
  let stale := isStale l.cursor
  if l.candidates.any fun k => k.any fun k => stale k && k.required then none
  else some { l with candidates := l.candidates.map (·.filter (!stale ·)) }

/-! ## Blocks -/

/-- Opens a block at a column that is deeper than the block around it. -/
def openBlock (l : Lexer) (column place : Nat) (t : Token) : Lexer :=
  if l.inFlow || (column : Int) ≤ l.indent then l
  else { l.insert place t with indent := column, outer := l.indent :: l.outer }

/-- Opens a block at the position. -/
def openHere (l : Lexer) (t : Token) : Lexer := l.openBlock l.cursor.column l.tokens.length t

/-- How many blocks are deeper than a column, and the blocks that are left. -/
def deeperThan (column : Int) : (indent : Int) → (outer : List Int) → Nat × Int × List Int
  | indent, [] => (0, indent, [])
  | indent, i :: rest =>
    if column < indent then
      let (n, left) := deeperThan column i rest
      (n + 1, left)
    else (0, indent, i :: rest)

def closeBlocks (l : Lexer) (column : Int) : Lexer :=
  if l.inFlow then l
  else
    let (n, indent, outer) := deeperThan column l.indent l.outer
    { l with tokens := l.tokens ++ List.replicate n .blockEnd, indent, outer }

/-! ## Going to the next token -/

/-- Skips blanks, comments and line breaks. A new line outside of flow collections may begin with a
key; tabs cannot stand where a key may begin. -/
def toToken (flow : Bool) : (fuel : Nat) → (keyAllowed : Bool) → Cursor → Bool × Cursor
  | 0, keyAllowed, c => (keyAllowed, c)
  | fuel + 1, keyAllowed, c =>
    let c := if c.column == 0 && c.seesChar 0 '\uFEFF' then c.skip 1 else c
    let c := (c.span fun x => x == ' ' || ((flow || !keyAllowed) && x == '\t')).2.skipComment
    if c.sees 0 isBreak then toToken flow fuel (keyAllowed || !flow) c.skipLine
    else (keyAllowed, c)

def prepare (l : Lexer) : Option Lexer := do
  let (keyAllowed, cursor) := toToken l.inFlow (l.cursor.rest.length + 1) l.keyAllowed l.cursor
  let l ← dropStale? { l with keyAllowed, cursor }
  return l.closeBlocks l.cursor.column

/-! ## Reading tokens -/

/-- Closes all blocks in front of a directive or a document mark. -/
def leaveBlocks (l : Lexer) : Option Lexer :=
  (l.closeBlocks (-1)).dropCandidate?.map (·.allowKey false)

def fetchDirective (l : Lexer) : Option Lexer := do
  let l ← l.leaveBlocks
  let (token, cursor) ← readDirective l.cursor
  return { l.push token with cursor }

def fetchMark (l : Lexer) (t : Token) : Option Lexer := l.leaveBlocks.map (·.take 3 t)

def fetchFlowStart (l : Lexer) (t : Token) : Option Lexer := do
  let l ← l.saveCandidate?
  return ({ l with candidates := none :: l.candidates }.allowKey true).take 1 t

def fetchFlowEnd (l : Lexer) (t : Token) : Option Lexer := do
  let l ← l.dropCandidate?
  let candidates := if l.inFlow then l.candidates.drop 1 else l.candidates
  return ({ l with candidates }.allowKey false).take 1 t

def fetchFlowEntry (l : Lexer) : Option Lexer :=
  l.dropCandidate?.map fun l => (l.allowKey true).take 1 .flowEntry

def fetchBlockEntry (l : Lexer) : Option Lexer := do
  if !l.inFlow && !l.keyAllowed then none
  let l ← (l.openHere .blockSequenceStart).dropCandidate?
  return (l.allowKey true).take 1 .blockEntry

def fetchKey (l : Lexer) : Option Lexer := do
  if !l.inFlow && !l.keyAllowed then none
  let l ← (l.openHere .blockMappingStart).dropCandidate?
  return (l.allowKey !l.inFlow).take 1 .key

/-- At a colon the candidate, if there is one, is found to be a key. -/
def fetchValue (l : Lexer) : Option Lexer :=
  match l.candidate? with
  | some k =>
    let l := (l.insert k.place .key).openBlock k.cursor.column k.place .blockMappingStart
    some (((l.setCandidate none).allowKey false).take 1 .value)
  | none =>
    if !l.inFlow && !l.keyAllowed then none
    else some (((l.openHere .blockMappingStart).allowKey !l.inFlow).take 1 .value)

def fetchName (l : Lexer) (token : String → Token) : Option Lexer := do
  let l ← l.saveCandidate?
  let (name, cursor) ← readName l.cursor
  return { (l.allowKey false).push (token name) with cursor }

def fetchTag (l : Lexer) : Option Lexer := do
  let l ← l.saveCandidate?
  let (token, cursor) ← readTag l.inFlow l.cursor
  return { (l.allowKey false).push token with cursor }

def fetchBlock (l : Lexer) (literal : Bool) : Option Lexer := do
  let l ← l.dropCandidate?
  let (text, cursor) ← readBlock literal l.indent l.cursor
  let style := if literal then ScalarStyle.literal else .folded
  return { (l.allowKey true).push (.scalar style (.ofList text)) with cursor }

def fetchQuoted (l : Lexer) (single : Bool) : Option Lexer := do
  let l ← l.saveCandidate?
  let (text, cursor) ← readQuoted single l.cursor
  let style := if single then ScalarStyle.singleQuoted else .doubleQuoted
  return { (l.allowKey false).push (.scalar style (.ofList text)) with cursor }

def fetchPlain (l : Lexer) : Option Lexer := do
  let l ← l.saveCandidate?
  let plain ← readPlain l.inFlow (l.indent + 1).toNat l.cursor
  return { (l.allowKey plain.brokenOff).push (.scalar .plain (.ofList plain.text)) with
    cursor := plain.cursor }

/-- Indicators, which cannot begin a plain scalar. -/
def isIndicator (x : Char) : Bool := "-?:,[]\x7b\x7d#&*!|>'\"%@\x60".toList.contains x

/-- Whether a plain scalar can begin here. Three of the indicators may begin one if more follows. -/
def beginsPlain (flow : Bool) (c : Cursor) : Bool :=
  !(c.endsAt 0 || c.sees 0 isIndicator) ||
    (c.seesChar 0 '-' && !c.sees 1 isBlank) ||
    (!flow && (c.seesChar 0 '?' || c.seesChar 0 ':') && !c.endsAt 1)

def fetch (l : Lexer) : Option Lexer :=
  let c := l.cursor
  let plain := if beginsPlain l.inFlow c then l.fetchPlain else none
  if c.column == 0 && c.seesChar 0 '%' then l.fetchDirective
  else if c.atMark '-' then l.fetchMark .documentStart
  else if c.atMark '.' then l.fetchMark .documentEnd
  else match c.next? with
    | some '[' => l.fetchFlowStart .flowSequenceStart
    | some '\x7b' => l.fetchFlowStart .flowMappingStart
    | some ']' => l.fetchFlowEnd .flowSequenceEnd
    | some '\x7d' => l.fetchFlowEnd .flowMappingEnd
    | some ',' => l.fetchFlowEntry
    | some '-' => if c.endsAt 1 then l.fetchBlockEntry else plain
    | some '?' => if l.inFlow || c.endsAt 1 then l.fetchKey else plain
    | some ':' => if l.inFlow || c.endsAt 1 then l.fetchValue else plain
    | some '*' => l.fetchName .alias
    | some '&' => l.fetchName .anchor
    | some '!' => l.fetchTag
    | some '|' => if l.inFlow then none else l.fetchBlock true
    | some '>' => if l.inFlow then none else l.fetchBlock false
    | some '\'' => l.fetchQuoted true
    | some '"' => l.fetchQuoted false
    | _ => plain

/-- Reads the rest of the text. -/
def finish : (fuel : Nat) → Lexer → Option (List Token)
  | 0, _ => none
  | fuel + 1, l => do
    let l ← l.prepare
    if l.cursor.rest.isEmpty then l.leaveBlocks.map (·.tokens)
    else finish fuel (← l.fetch)

end Lexer

/-- The tokens of a text, if it is well formed. -/
def tokens? (text : String) : Option (List Token) :=
  if text.toList.all isAllowed then
    Lexer.finish (text.length + 1) { cursor := .ofText text }
  else none

end Telemetry.Yaml

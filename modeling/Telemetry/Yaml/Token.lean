/-!
# Tokens of YAML

* `ScalarStyle`: how a scalar is written.
* `Token`: indicators, scalars and directives, and the beginnings and ends of blocks, which only
  indentation shows.
-/

namespace Telemetry.Yaml

inductive ScalarStyle where
  | plain
  | singleQuoted
  | doubleQuoted
  | literal
  | folded
deriving Repr, DecidableEq

inductive Token where
  | version (major minor : Nat)
  /-- A handle stands for the beginning of tags. -/
  | tagDirective (handle start : String)
  | documentStart
  | documentEnd
  | blockSequenceStart
  | blockMappingStart
  | blockEnd
  | flowSequenceStart
  | flowSequenceEnd
  | flowMappingStart
  | flowMappingEnd
  | blockEntry
  | flowEntry
  | key
  | value
  | alias (name : String)
  | anchor (name : String)
  | tag (handle suffix : String)
  | scalar (style : ScalarStyle) (text : String)
deriving Repr, DecidableEq

end Telemetry.Yaml

import Telemetry.Metric.Json

/-!
# Warnings

* `Warning`: a message about a collection and the time it was given at.
* `cutFrom?`: the place where a text is cut that is too long.
* `Warning.toJson`, `Warning.ofJson`: the record of a warning.
-/

namespace Telemetry

structure Warning where
  message : String
  timestamp : Instant
deriving Repr, DecidableEq

/-- The first byte, from a byte downwards, where the text can be cut without breaking a character;
nothing if there is none down to the first byte of the text. -/
def cutFrom? (text : String) : (byte : Nat) → Option Nat
  | 0 => if String.Pos.Raw.isValid text ⟨0⟩ then some 0 else none
  | byte + 1 => if String.Pos.Raw.isValid text ⟨byte + 1⟩ then some (byte + 1) else cutFrom? text byte

/-- The text up to the first place, from a byte downwards, where it can be cut. -/
def truncated (byte : Nat) (text : String) : String :=
  match cutFrom? text byte with
  | some cut => String.Pos.Raw.extract text 0 ⟨cut⟩
  | none => ""

namespace Warning

/-- How many bytes of a message are kept. -/
def maxBytes : Nat := 256

/-- How many warnings of a collection are kept. -/
def maxCount : Nat := 40

/-- A warning with as much of the message as is kept. -/
def given (now : Instant) (message : String) : Warning :=
  ⟨if message.utf8ByteSize > maxBytes then truncated maxBytes message else message, now⟩

open Json

def toJson (w : Warning) : Json :=
  .object [("message", .string w.message), ("timestamp", w.timestamp.toJson)]

def ofJson (readInstant : String → Option Instant) (j : Json) : Option Warning := do
  let r ← record? ["message", "timestamp"] j
  return ⟨← field r "message" string?, ← field r "timestamp" (Instant.ofJson readInstant)⟩

end Warning

end Telemetry

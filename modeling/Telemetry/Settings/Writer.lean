import Telemetry.Settings.Basic

/-!
# Writing settings

Settings are written as YAML, with a line for every field. The separator stands between single
quotes, or between double quotes with an escape if it cannot be printed.

* `isPrintable`: the characters that can stand in the file as they are.
* `quotedChar`: a character between quotes.
* `Settings.toYaml`: the text of settings.
-/

namespace Telemetry

def isPrintable (c : Char) : Bool :=
  c == '\n' || (0x20 ≤ c.toNat && c.toNat ≤ 0x7E) ||
    (0xA0 ≤ c.toNat && c.toNat ≤ 0xFFFD && c.toNat != 0xFEFF) || 0x10000 ≤ c.toNat

/-- A number in so many hexadecimal digits. -/
def upperHex (digits n : Nat) : List Char :=
  let cs := (Nat.toDigits 16 n).map Char.toUpper
  List.replicate (digits - cs.length) '0' ++ cs

def escapedChar (c : Char) : List Char :=
  match c with
  | '\x00' => ['\\', '0']
  | '\x07' => ['\\', 'a']
  | '\x08' => ['\\', 'b']
  | '\t' => ['\\', 't']
  | '\x0B' => ['\\', 'v']
  | '\x0C' => ['\\', 'f']
  | '\r' => ['\\', 'r']
  | '\x1B' => ['\\', 'e']
  | '\u0085' => ['\\', 'N']
  | _ => if c.toNat ≤ 0xFF then '\\' :: 'x' :: upperHex 2 c.toNat else '\\' :: 'u' :: upperHex 4 c.toNat

def quotedChar (c : Char) : String :=
  if !isPrintable c then .ofList ('"' :: (escapedChar c ++ ['"']))
  else if c = '\'' then "''''"
  else .ofList ['\'', c, '\'']

def boolText (b : Bool) : String := if b then "true" else "false"

def Settings.toYaml (s : Settings) : String :=
  "logging:\n" ++
    "  level: " ++ s.logging.threshold.name ++ "\n" ++
    "  format: " ++ s.logging.format.name ++ "\n" ++
  "definition:\n" ++
    "  separator: " ++ quotedChar s.definition.separator ++ "\n" ++
    "  allow_dynamic_last_element: " ++ boolText s.definition.dynamicLast ++ "\n" ++
    "  allow_adding_undefined_metrics: " ++ boolText s.definition.undefinedMetrics ++ "\n" ++
    "  allow_values_at_any_level: " ++ boolText s.definition.anyLevel ++ "\n" ++
  "filters:\n" ++
    "  strict: " ++ boolText s.filters.strict ++ "\n"

end Telemetry

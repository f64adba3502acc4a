import Telemetry.Json.Reader
import Telemetry.Settings.Basic
import Telemetry.Settings.Form
import Telemetry.Yaml.Reader

/-!
# Reading settings

* `Settings.read`: settings in any form.
* `Settings.ofJsonText`, `Settings.ofJson`: settings in JSON.
* `Settings.ofFile`: settings in the file of a directory.
-/

namespace Telemetry

namespace Form

variable {α : Type} (f : Form α)

def readLogging (value : α) : Option Log.Settings := do
  let r ← f.record? ["level", "format"] value
  return {
    threshold := ← field r "level" (.upTo .info) fun v => (f.variant? v).bind Log.Threshold.ofName?
    format := ← field r "format" .auto fun v => (f.variant? v).bind Log.Format.ofName? }

/-- A text of one character. -/
def char? (value : α) : Option Char :=
  match (f.text? value).map (·.toList) with
  | some [c] => some c
  | _ => none

def readOptions (value : α) : Option DefinitionOptions := do
  let r ← f.record? ["separator", "allow_dynamic_last_element", "allow_adding_undefined_metrics",
    "allow_values_at_any_level"] value
  return {
    separator := ← field r "separator" defaultSeparator f.char?
    dynamicLast := ← field r "allow_dynamic_last_element" false f.bool?
    undefinedMetrics := ← field r "allow_adding_undefined_metrics" false f.bool?
    anyLevel := ← field r "allow_values_at_any_level" false f.bool? }

def readFilters (value : α) : Option FilterOptions := do
  let r ← f.record? ["strict"] value
  return { strict := ← field r "strict" false f.bool? }

end Form

namespace Settings

def read {α : Type} (f : Form α) (value : α) : Option Settings := do
  let r ← f.record? ["logging", "definition", "filters"] value
  return {
    logging := ← Form.field r "logging" {} f.readLogging
    definition := ← Form.field r "definition" {} f.readOptions
    filters := ← Form.field r "filters" {} f.readFilters }

/-! ## JSON -/

def ofJson (value : Json) : Except SettingsError Settings :=
  match read .json value with
  | none => .error { fault := .badJson }
  | some settings => settings.check

def ofJsonText (readFloat : String → Option Double) (text : String) :
    Except SettingsError Settings :=
  match Json.parse readFloat text with
  | none => .error { fault := .badJson }
  | some value => ofJson value

/-! ## Files -/

/-- An empty document has nothing but defaults. -/
def ofDocument (d : Yaml.Document) : Option Settings :=
  match d.root with
  | none => some {}
  | some root => read (.yaml d) root

/-- Blank text stands for an empty mapping. -/
def ofYaml (text : String) : Option Settings :=
  let text := if text.toList.all Unicode.isBlank then text ++ "\x7b\x7d" else text
  (Yaml.parse text).bind ofDocument

def ofYamlText (text : String) : Except SettingsError Settings :=
  match ofYaml text with
  | none => .error { fault := .badYaml }
  | some settings => settings.check

def fileName : String := "config.yml"

/-- Reads the file of a directory from its octets, which are missing if there is no file. -/
def ofFile (directory : String) (contents : Option ByteArray) : Except SettingsError Settings :=
  let loaded : Except SettingsError Settings := match contents.bind String.fromUTF8? with
    | none => .error { fault := .unreadableFile }
    | some text => ofYamlText text
  loaded.mapError (·.inFile (directory ++ "/" ++ fileName))

end Settings

end Telemetry

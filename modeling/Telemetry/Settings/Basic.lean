import Telemetry.Log.Settings
import Telemetry.Rule.Definitions
import Telemetry.Unicode.Character

/-!
# Settings

* `Settings`: the settings of the log, of the definitions and of the filters, each with a default.
* `isSeparator`: what may separate the elements of paths.
* `SettingsError`: why settings cannot be used.
-/

namespace Telemetry

structure FilterOptions where
  /-- A task with an invalid filter is not loaded. -/
  strict : Bool := false
deriving Repr, DecidableEq

structure Settings where
  logging : Log.Settings := {}
  definition : DefinitionOptions := {}
  filters : FilterOptions := {}
deriving Repr, DecidableEq

/-- Characters that mean something within elements. -/
def reservedChars : List Char := "[]\x7b\x7d*=-_.".toList

/-- Separators are neither letters, digits or blanks nor reserved. -/
def isSeparator (c : Char) : Bool :=
  !(Unicode.isAlphanumeric c || Unicode.isBlank c || reservedChars.contains c)

def Settings.isValid (s : Settings) : Bool := isSeparator s.definition.separator

/-! ## Errors -/

inductive SettingsFault where
  | unreadableFile
  | badYaml
  | badJson
  | invalidValue
deriving Repr, DecidableEq

def SettingsFault.message : SettingsFault → String
  | unreadableFile => "could not open config file"
  | badYaml => "could not parse yaml config file"
  | badJson => "could not parse json config"
  | invalidValue => "invalid config value"

/-- What a fault was found in. -/
inductive SettingsOrigin where
  | unknown
  | file (path : String)
  | field (name : String)
deriving Repr, DecidableEq

structure SettingsError where
  fault : SettingsFault
  origin : SettingsOrigin := .unknown
deriving Repr, DecidableEq

namespace SettingsError

def message (e : SettingsError) : String :=
  match e.origin with
  | .unknown => e.fault.message
  | .file path => e.fault.message ++ " (file " ++ path ++ ")"
  | .field name => e.fault.message ++ " (field " ++ name ++ ")"

/-- Whether the fault is the consequence of another one: all but bad values are. -/
def hasCause (e : SettingsError) : Bool := e.fault != .invalidValue

def inFile (e : SettingsError) (path : String) : SettingsError := { e with origin := .file path }

end SettingsError

/-- Settings that can be used. -/
def Settings.check (s : Settings) : Except SettingsError Settings :=
  if s.isValid then .ok s else .error ⟨.invalidValue, .field "definition.separator"⟩

end Telemetry

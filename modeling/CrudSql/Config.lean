import CrudSql.Document.Setting
import CrudSql.Engine
import CrudSql.Fault
import CrudSql.Text.Alphanumeric
import CrudSql.Text.Blank
import CrudSql.Toml.Read

/-! Configurations: a dialect by name, options, and settings that replace those of the dialect. -/

namespace CrudSql

namespace Dialect

/-- The name of a dialect in a configuration. -/
def configName : Dialect → String
  | sqlServer => "sql_server"
  | postgreSql => "postgres"
  | mySql => "mysql"

/-- The dialect of a name. -/
def ofConfigName? (name : String) : Option Dialect :=
  [sqlServer, postgreSql, mySql].find? (·.configName == name)

/-- Reads the name of a dialect. -/
def ofDocument? (format : DocumentFormat) (document : Document) : Option Dialect := do
  ofConfigName? (← document.choice? format ([sqlServer, postgreSql, mySql].map (·.configName)))

end Dialect

/-- Settings that replace those of a dialect where they are given. -/
structure Overrides where
  parameterMark : Option Char := none
  maxParameters : Option Nat := none
  offsetFetch : Option Bool := none
  averageType : Option String := none
  arrayThreshold : Option Nat := none
  valuesThreshold : Option Nat := none
  maxListLength : Option Nat := none
  deriving DecidableEq, Repr

namespace Overrides

/-- The settings with those that are given in place of theirs. -/
def apply (overrides : Overrides) (setting : Setting) : Setting :=
  { setting with
    parameterMark := overrides.parameterMark.getD setting.parameterMark
    maxParameters := overrides.maxParameters.getD setting.maxParameters
    offsetFetch := overrides.offsetFetch.getD setting.offsetFetch
    averageType := overrides.averageType.or setting.averageType
    arrayThreshold := overrides.arrayThreshold.or setting.arrayThreshold
    valuesThreshold := overrides.valuesThreshold.or setting.valuesThreshold
    maxListLength := overrides.maxListLength.or setting.maxListLength }

/-- Reads settings, each of which may be missing or null. -/
def ofDocument? (format : DocumentFormat) (document : Document) : Option Overrides := do
  let fields ← document.fields? format true
    ["parameter_prefix", "max_parameter_count", "use_offset_fetch", "average_conversion_type",
     "use_array_parameter_threshold", "use_in_values_threshold", "max_array_parameter_value_count"]
  let optional {α : Type} (read : Document → Option α) (value : Option Document) : Option (Option α) :=
    Document.withDefault none (Document.nullable read) value
  match fields with
  | [parameterMark, maxParameters, offsetFetch, averageType, arrayThreshold, valuesThreshold,
      maxListLength] =>
    return {
      parameterMark := ← optional Document.char? parameterMark
      maxParameters := ← optional Document.count? maxParameters
      offsetFetch := ← optional Document.bool? offsetFetch
      averageType := ← optional Document.text? averageType
      arrayThreshold := ← optional Document.count? arrayThreshold
      valuesThreshold := ← optional Document.count? valuesThreshold
      maxListLength := ← optional Document.count? maxListLength }
  | _ => none

/-- The settings, with null for those that are not given. -/
def toJson (overrides : Overrides) : Json :=
  .object
    [("parameter_prefix", Json.ofOption (overrides.parameterMark.map Json.ofChar)),
     ("max_parameter_count", Json.ofOption (overrides.maxParameters.map .ofNat)),
     ("use_offset_fetch", Json.ofOption (overrides.offsetFetch.map .bool)),
     ("average_conversion_type", Json.ofOption (overrides.averageType.map .text)),
     ("use_array_parameter_threshold", Json.ofOption (overrides.arrayThreshold.map .ofNat)),
     ("use_in_values_threshold", Json.ofOption (overrides.valuesThreshold.map .ofNat)),
     ("max_array_parameter_value_count", Json.ofOption (overrides.maxListLength.map .ofNat))]

end Overrides

/-- What an engine is made from. -/
structure Config where
  dialect : Dialect
  options : Options := {}
  overrides : Overrides := {}
  deriving DecidableEq, Repr

namespace Config

/-- Whether a character may mark parameters: it may be neither white space nor a letter or digit. -/
def isMark (c : Char) : Bool := !Text.isAlphanumeric c && !Text.isBlank c

/-- Limits are not zero, and the parameter mark is a mark. -/
def validate (config : Config) : Except Fault Unit := do
  if config.options.mergeInsertThreshold = 0 then throw .mergeThresholdZero
  if config.overrides.maxParameters = some 0 then throw .parameterLimitZero
  if config.overrides.maxListLength = some 0 then throw .listLimitZero
  match config.overrides.parameterMark with
  | some mark => if !isMark mark then throw (.markInvalid mark)
  | none => return ()

/-- The engine with the dialect's settings where no others are given. -/
def engine (config : Config) : Engine where
  dialect := config.dialect
  setting := config.overrides.apply config.dialect.setting
  options := config.options

/-- Reads a configuration. Only the dialect must be there. -/
def ofDocument? (format : DocumentFormat) (document : Document) : Option Config := do
  match ← document.fields? format true ["dialect", "options", "setting"] with
  | [dialect, options, setting] =>
    return {
      dialect := ← Document.required (Dialect.ofDocument? format) dialect
      options := ← Document.withDefault {} (Options.ofDocument? format) options
      overrides := ← Document.withDefault {} (Overrides.ofDocument? format) setting }
  | _ => none

/-- The configuration that a TOML text describes. -/
def parse (text : String) : Except Fault Config :=
  match (Toml.read? text).bind (ofDocument? .toml) with
  | some config => do config.validate; return config
  | none => throw .unreadable

/-- The configuration as it is written. -/
def toJson (config : Config) : Json :=
  .object
    [("dialect", .text config.dialect.configName),
     ("options", config.options.toJson),
     ("setting", config.overrides.toJson)]

end Config

end CrudSql

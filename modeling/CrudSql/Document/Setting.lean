import CrudSql.Document
import CrudSql.Setting

/-! Settings and options in documents. -/

namespace CrudSql

/-- A whole number in a document has 64 bits. -/
def Document.count? : Document → Option Nat := Document.nat? 64

namespace NullSemantics

/-- The name in a document. -/
def name : NullSemantics → String
  | ansi => "ansi"
  | nullNotEqual => "null_not_equal"

/-- Reads one of the names. -/
def ofDocument? (format : DocumentFormat) (document : Document) : Option NullSemantics := do
  let name ← document.choice? format [ansi.name, nullNotEqual.name]
  return if name = ansi.name then ansi else nullNotEqual

end NullSemantics

namespace Options

/-- Reads options; those that are missing have their default. -/
def ofDocument? (format : DocumentFormat) (document : Document) : Option Options := do
  let fields ← document.fields? format false
    ["identity_insert", "null_semantics", "merge_insert_threshold"]
  match fields with
  | [identityInsert, nullSemantics, mergeInsertThreshold] =>
    let default : Options := {}
    return {
      identityInsert := ← Document.withDefault default.identityInsert Document.bool? identityInsert
      nullSemantics := ← Document.withDefault default.nullSemantics
        (NullSemantics.ofDocument? format) nullSemantics
      mergeInsertThreshold := ← Document.withDefault default.mergeInsertThreshold
        Document.count? mergeInsertThreshold }
  | _ => none

/-- The options as they are written. -/
def toJson (options : Options) : Json :=
  .object
    [("identity_insert", .bool options.identityInsert),
     ("null_semantics", .text options.nullSemantics.name),
     ("merge_insert_threshold", .ofNat options.mergeInsertThreshold)]

end Options

namespace Setting

/-- Reads the settings of an engine. Only the thresholds and the type for averages may be missing. -/
def ofDocument? (format : DocumentFormat) (document : Document) : Option Setting := do
  let fields ← document.fields? format false
    ["opening_quote", "closing_quote", "parameter_prefix", "table_hints_supported",
     "average_conversion_type", "max_parameter_count", "use_offset_fetch",
     "use_array_parameter_threshold", "use_in_values_threshold", "max_array_parameter_value_count"]
  match fields with
  | [openingQuote, closingQuote, parameterMark, hintsSupported, averageType, maxParameters,
      offsetFetch, arrayThreshold, valuesThreshold, maxListLength] =>
    return {
      openingQuote := ← Document.required Document.char? openingQuote
      closingQuote := ← Document.required Document.char? closingQuote
      parameterMark := ← Document.required Document.char? parameterMark
      hintsSupported := ← Document.required Document.bool? hintsSupported
      averageType := ← Document.withDefault none (Document.nullable Document.text?) averageType
      maxParameters := ← Document.required Document.count? maxParameters
      offsetFetch := ← Document.required Document.bool? offsetFetch
      arrayThreshold := ← Document.withDefault none (Document.nullable Document.count?) arrayThreshold
      valuesThreshold := ← Document.withDefault none (Document.nullable Document.count?)
        valuesThreshold
      maxListLength := ← Document.withDefault none (Document.nullable Document.count?) maxListLength }
  | _ => none

/-- The settings as they are written. -/
def toJson (setting : Setting) : Json :=
  .object
    [("opening_quote", Json.ofChar setting.openingQuote),
     ("closing_quote", Json.ofChar setting.closingQuote),
     ("parameter_prefix", Json.ofChar setting.parameterMark),
     ("table_hints_supported", .bool setting.hintsSupported),
     ("average_conversion_type", Json.ofOption (setting.averageType.map .text)),
     ("max_parameter_count", .ofNat setting.maxParameters),
     ("use_offset_fetch", .bool setting.offsetFetch),
     ("use_array_parameter_threshold", Json.ofOption (setting.arrayThreshold.map .ofNat)),
     ("use_in_values_threshold", Json.ofOption (setting.valuesThreshold.map .ofNat)),
     ("max_array_parameter_value_count", Json.ofOption (setting.maxListLength.map .ofNat))]

end Setting

end CrudSql

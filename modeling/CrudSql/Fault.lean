import CrudSql.Operator

/-! Why a name, a predicate, a statement or a document is refused. Every cause has its own constructor;
    its kind, its category and its wording are functions of it. -/

namespace CrudSql

/-- The causes of a refusal. -/
inductive Fault where
  /-- The text of an identifier is blank. -/
  | identifierBlank
  | identifierNul
  /-- Nothing follows the last dot of an identifier. -/
  | dotTrailing (text : String)
  /-- Something other than a dot follows a part of an identifier. -/
  | dotMissing (found : Char)
  | quoteUnclosed (text : String)
  | quotedBlank
  /-- A quote stands inside a part that is not quoted. -/
  | quoteStray (quote : Char) (text : String)
  | partBlank (text : String)
  | fieldBlank
  | tableBlank
  /-- The parameters of two fields have one name. -/
  | parametersCollide (parameter field other : String)
  /-- A parameter of the filter has the name of one that a column is set to. -/
  | filterCollides (parameter field : String)
  /-- No entity is mapped under a key. -/
  | entityUnmapped (key : String)
  | topZero
  | batchZero
  | pageNegative (page : Int)
  | rowsTooFew (rows : Int)
  | pageOverflow
  | skipNegative (skip : Int)
  | takeTooFew (take : Int)
  | windowOverflow
  | orderMissing
  | fieldsMissing
  | allGenerated (table : String)
  | nothingUpdatable (table : String)
  | hintsUnsupported (dialect : String)
  | providerUnknown (key : String)
  /-- A primary key is neither filled by the server nor among the fields. -/
  | primaryUnsupplied (primary : String)
  /-- There are neither qualifiers nor a primary key to match rows by. -/
  | primaryMissing (table : String)
  /-- The primary key would match rows, but a part of it is not among the fields. -/
  | primaryNotGiven (primary : String)
  | primaryNotAField (primary table : String)
  | entityWithoutPrimary (key table : String)
  | qualifierNotGiven (qualifier : String)
  | listRequired (operator : Operator) (field : String)
  | pairRequired (operator : Operator) (field : String)
  /-- The list of bounds does not have two values. -/
  | pairLength (operator : Operator) (field : String) (length : Nat)
  | listRefused (operator : Operator) (field : String)
  | nullRefused (operator : Operator) (field : String)
  | listTooLong (field : String) (length limit : Nat)
  /-- The parameters of a predicate are not given as an object. -/
  | objectRequired
  | scalarRequired (key : String)
  | tooManyParameters (count limit : Nat)
  | mergeThresholdZero
  | parameterLimitZero
  | listLimitZero
  | markInvalid (mark : Char)
  | cacheVersion (found expected : Nat)
  /-- A document cannot be read, or does not have the form that is asked for. -/
  | unreadable
  deriving DecidableEq, Repr

/-- What the caller can do about a refusal. -/
inductive FaultKind where
  | invalidArgument
  | missingInput
  | unsupported
  | schemaMismatch
  | invalidPredicate
  | configuration
  deriving DecidableEq, Repr

/-- The headings under which the causes are reported. -/
inductive FaultCategory where
  | invalidArgument (argument : String)
  | outOfRange (argument : String)
  | empty
  | missingFields
  | notSupported
  | primaryFieldNotFound
  | invalidQualifiers
  | invalidPredicate
  | parameterLimitExceeded
  | configuration
  deriving DecidableEq, Repr

namespace FaultCategory

/-- The kind to which a category belongs. -/
def kind : FaultCategory → FaultKind
  | invalidArgument _ | outOfRange _ | parameterLimitExceeded => .invalidArgument
  | empty | missingFields => .missingInput
  | notSupported => .unsupported
  | primaryFieldNotFound | invalidQualifiers => .schemaMismatch
  | invalidPredicate => .invalidPredicate
  | configuration => .configuration

/-- The start of the message, which names the category and, for an argument, the field path. -/
def heading : FaultCategory → String
  | invalidArgument argument => s!"Invalid argument '{argument}': "
  | outOfRange argument => s!"Argument '{argument}' is out of range: "
  | empty => "Empty: "
  | missingFields => "Missing fields: "
  | notSupported => "Not supported: "
  | primaryFieldNotFound => "Primary field not found: "
  | invalidQualifiers => "Invalid qualifiers: "
  | invalidPredicate => "Invalid predicate: "
  | parameterLimitExceeded => "Parameter limit exceeded: "
  | configuration => "Configuration error: "

end FaultCategory

namespace Fault

/-- What an error is about. An error about an argument names it. -/
def category : Fault → FaultCategory
  | identifierBlank | identifierNul | dotTrailing _ | dotMissing _ | quoteUnclosed _ | quotedBlank
  | quoteStray _ _ | partBlank _ | fieldBlank => .invalidArgument "name"
  | tableBlank => .invalidArgument "table"
  | parametersCollide _ _ _ => .invalidArgument "fields"
  | filterCollides _ _ => .invalidArgument "filter"
  | entityUnmapped _ => .invalidArgument "key"
  | topZero => .outOfRange "top"
  | batchZero => .outOfRange "batch_size"
  | pageNegative _ | pageOverflow => .outOfRange "page"
  | rowsTooFew _ => .outOfRange "rows_per_batch"
  | skipNegative _ => .outOfRange "skip"
  | takeTooFew _ | windowOverflow => .outOfRange "take"
  | orderMissing => .empty
  | fieldsMissing | allGenerated _ | nothingUpdatable _ => .missingFields
  | hintsUnsupported _ | providerUnknown _ => .notSupported
  | primaryUnsupplied _ | primaryMissing _ | primaryNotGiven _ | primaryNotAField _ _
  | entityWithoutPrimary _ _ => .primaryFieldNotFound
  | qualifierNotGiven _ => .invalidQualifiers
  | listRequired _ _ | pairRequired _ _ | pairLength _ _ _ | listRefused _ _ | nullRefused _ _
  | listTooLong _ _ _ | objectRequired | scalarRequired _ => .invalidPredicate
  | tooManyParameters _ _ => .parameterLimitExceeded
  | mergeThresholdZero | parameterLimitZero | listLimitZero | markInvalid _ | cacheVersion _ _
  | unreadable => .configuration

/-- The kind to which an error belongs. -/
def kind (fault : Fault) : FaultKind := fault.category.kind

/-- The wording below the heading. -/
def detail : Fault → String
  | identifierBlank => "identifier cannot be empty"
  | identifierNul => "identifier cannot contain NUL character"
  | dotTrailing text => s!"trailing '.' in identifier '{text}'"
  | dotMissing found => s!"expected '.' between identifier parts, got '{found}'"
  | quoteUnclosed text => s!"unclosed quoted identifier '{text}'"
  | quotedBlank => "empty quoted identifier"
  | quoteStray quote text => s!"unexpected quote character '{quote}' in identifier '{text}'"
  | partBlank text => s!"empty identifier segment in '{text}'"
  | fieldBlank => "field name cannot be null or whitespace"
  | tableBlank => "table name cannot be null or whitespace"
  | parametersCollide parameter field other =>
    s!"parameter {parameter} of '{field}' collides with the parameter of '{other}'"
  | filterCollides parameter field =>
    s!"filter parameter {parameter} collides with the SET parameter of '{field}'"
  | entityUnmapped key => s!"no mapping registered for '{key}'"
  | topZero => "top must be at least 1"
  | batchZero => "batch size must be at least 1"
  | pageNegative page => s!"page must be 0 or greater, got {page}"
  | rowsTooFew rows => s!"rows per batch must be at least 1, got {rows}"
  | pageOverflow => "page × rows per batch overflows"
  | skipNegative skip => s!"skip must be 0 or greater, got {skip}"
  | takeTooFew take => s!"take must be at least 1, got {take}"
  | windowOverflow => "skip + take overflows"
  | orderMissing => "the order fields are required for paged queries"
  | fieldsMissing => "the list of fields cannot be empty"
  | allGenerated table => s!"every field of '{table}' is generated"
  | nothingUpdatable table => s!"no updatable fields remain for '{table}'"
  | hintsUnsupported dialect => s!"table hints are not supported by {dialect}"
  | providerUnknown key => s!"no statement builder is registered for provider '{key}'"
  | primaryUnsupplied primary =>
    s!"primary key '{primary}' has no default value and is not among the fields"
  | primaryMissing table => s!"no qualifiers were given and '{table}' has no primary key"
  | primaryNotGiven primary => s!"primary key '{primary}' is not among the fields"
  | primaryNotAField primary table => s!"primary '{primary}' is not a field of '{table}'"
  | entityWithoutPrimary key table => s!"entity '{key}' (table '{table}') has no primary key"
  | qualifierNotGiven qualifier => s!"qualifier '{qualifier}' is not among the fields"
  | listRequired operator field =>
    s!"operation {operator.name} on '{field}' requires a list value"
  | pairRequired operator field =>
    s!"operation {operator.name} on '{field}' requires a list of 2 values"
  | pairLength operator field length =>
    s!"operation {operator.name} on '{field}' requires exactly 2 values, got {length}"
  | listRefused operator field =>
    s!"operation {operator.name} on '{field}' does not accept a list value"
  | nullRefused operator field => s!"operation {operator.name} on '{field}' does not accept NULL"
  | listTooLong field length limit =>
    s!"the list of '{field}' has {length} values, at most {limit} are allowed"
  | objectRequired => "parameter object must be a JSON object of column/value pairs"
  | scalarRequired key => s!"value of '{key}' must be a scalar or an array of scalars"
  | tooManyParameters count limit => s!"{count} parameters requested, the maximum is {limit}"
  | mergeThresholdZero => "options.merge_insert_threshold must be at least 1"
  | parameterLimitZero => "setting.max_parameter_count must be at least 1"
  | listLimitZero => "setting.max_array_parameter_value_count must be at least 1"
  | markInvalid mark => s!"setting.parameter_prefix '{mark}' is not a valid prefix"
  | cacheVersion found expected =>
    s!"unsupported field cache version {found} (expected {expected})"
  | unreadable => "the document cannot be read"

/-- The whole message: the heading of the category and the wording of the error. -/
def message (fault : Fault) : String := fault.category.heading ++ fault.detail

end Fault

end CrudSql

import CrudSql.Column
import CrudSql.Document

/-! Columns and the types of their values in documents. -/

namespace CrudSql

namespace ClientType

/-- The types that have a name of their own, with that name. -/
def named : List (String × ClientType) :=
  [("boolean", boolean), ("int16", int16), ("int32", int32), ("int64", int64),
   ("float32", float32), ("float64", float64), ("decimal", decimal), ("string", string),
   ("bytes", bytes), ("uuid", uuid), ("date", date), ("time", time), ("date_time", dateTime),
   ("json", json)]

/-- Reads a type: one of the known names, or any other name under a key for it. -/
def ofDocument? (format : DocumentFormat) : Document → Option ClientType
  | .table [("other", name)] => (name.text?).map other
  | document => do named.lookup (← document.choice? format (named.map (·.1)))

/-- The name of a type as it is written. -/
def toJson : ClientType → Json
  | other name => .object [("other", .text name)]
  | type => .text (((named.find? fun pair => pair.2 = type).map (·.1)).getD "")

end ClientType

namespace Column

/-- Reads a column with all its properties. -/
def ofDocument? (format : DocumentFormat) (document : Document) : Option Column := do
  let fields ← document.fields? format false
    ["name", "client_type", "database_type", "size", "is_nullable", "is_primary", "is_identity",
     "is_generated", "has_default_value"]
  match fields with
  | [name, clientType, databaseType, size, isNullable, isPrimary, isIdentity, isGenerated, hasDefault] =>
    let column : Column := {
      name := ← Document.required Document.text? name
      clientType := ← Document.withDefault none
        (Document.nullable (ClientType.ofDocument? format)) clientType
      databaseType := ← Document.withDefault none (Document.nullable Document.text?) databaseType
      size := ← Document.withDefault none (Document.nullable (Document.nat? 32)) size
      isNullable := ← Document.withDefault true Document.bool? isNullable
      isPrimary := ← Document.withDefault false Document.bool? isPrimary
      isIdentity := ← Document.withDefault false Document.bool? isIdentity
      isGenerated := ← Document.withDefault false Document.bool? isGenerated
      hasDefault := ← Document.withDefault false Document.bool? hasDefault }
    return column.keysNotNull
  | _ => none

/-- The properties of a column as they are written. -/
def toJson (column : Column) : Json :=
  .object
    [("name", .text column.name),
     ("client_type", Json.ofOption (column.clientType.map (·.toJson))),
     ("database_type", Json.ofOption (column.databaseType.map .text)),
     ("size", Json.ofOption (column.size.map .ofNat)),
     ("is_nullable", .bool column.isNullable),
     ("is_primary", .bool column.isPrimary),
     ("is_identity", .bool column.isIdentity),
     ("is_generated", .bool column.isGenerated),
     ("has_default_value", .bool column.hasDefault)]

end Column

namespace Columns

/-- Reads a list of columns. -/
def ofDocument? (format : DocumentFormat) (document : Document) : Option Columns := do
  return ⟨← (← document.list?).mapM (Column.ofDocument? format)⟩

/-- The columns as a list. -/
def toJson (columns : Columns) : Json := .list (columns.columns.map (·.toJson))

end Columns

end CrudSql

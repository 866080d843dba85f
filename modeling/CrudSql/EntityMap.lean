import CrudSql.ColumnCache

/-! Entities: the table, the fields and perhaps the primary key that stand for a kind of object. -/

namespace CrudSql

/-- The table and the fields that stand for a kind of object. -/
structure EntityMapping where
  table : String
  fields : FieldSet
  primary : Option Field := none
  deriving DecidableEq, Repr

namespace EntityMapping

/-- The mapping to a table, whose name may not be blank. -/
def of (table : String) (fields : FieldSet) : Except Fault EntityMapping :=
  if Text.trim table = "" then .error .tableBlank else .ok { table, fields }

/-- The mapping with one of its fields as the primary key. -/
def withPrimary (mapping : EntityMapping) (name : String) : Except Fault EntityMapping :=
  match mapping.fields.get? name with
  | some field => .ok { mapping with primary := some field }
  | none => .error (.primaryNotAField name mapping.table)

end EntityMapping

/-- The mappings of the kinds of objects by their keys. -/
abbrev EntityMap := KeyMap EntityMapping

namespace EntityMap

/-- The primary key of an entity: its own or, if it has none, that of its table's columns. -/
def primaryFields (map : EntityMap) (cache : ColumnCache) (key : String) : Except Fault FieldSet :=
  match KeyMap.get? map key with
  | none => .error (.entityUnmapped key)
  | some mapping =>
    match mapping.primary with
    | some field => .ok (.singleton field)
    | none => do
      let primaries ← match cache.get? mapping.table with
        | some columns => columns.primaryFields
        | none => .ok .empty
      if primaries.isEmpty then throw (.entityWithoutPrimary key mapping.table)
      return primaries

end EntityMap

end CrudSql

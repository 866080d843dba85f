import CrudSql.Field

/-! Columns: what is known of a table's columns, and the roles they play in it. -/

namespace CrudSql

/-- What is known of a column. -/
structure Column where
  name : String
  clientType : Option ClientType := none
  databaseType : Option String := none
  size : Option Nat := none
  isNullable : Bool := true
  isPrimary : Bool := false
  /-- The server numbers the rows in this column. -/
  isIdentity : Bool := false
  /-- The server computes the column from others. -/
  isGenerated : Bool := false
  hasDefault : Bool := false
  deriving DecidableEq, Repr

namespace Column

/-- A part of the primary key, which is never null. -/
def asPrimary (column : Column) : Column := { column with isPrimary := true, isNullable := false }

/-- The identity column, which is never null. -/
def asIdentity (column : Column) : Column := { column with isIdentity := true, isNullable := false }

/-- A column that the server computes. -/
def asGenerated (column : Column) : Column := { column with isGenerated := true }

/-- A column that the server fills where no value is given. -/
def asDefaulted (column : Column) : Column := { column with hasDefault := true }

/-- A column that is never null. -/
def asNotNull (column : Column) : Column := { column with isNullable := false }

/-- The column with a type on the client's side. -/
def withClientType (column : Column) (type : ClientType) : Column :=
  { column with clientType := some type }

/-- The column with a type on the server's side, perhaps with a size. -/
def withDatabaseType (column : Column) (type : String) (size : Option Nat) : Column :=
  { column with databaseType := some type, size }

/-- The column with its keys made not nullable. -/
def keysNotNull (column : Column) : Column :=
  { column with isNullable := column.isNullable && !column.isPrimary && !column.isIdentity }

/-- Whether the column has the name, in whatever case. Quotes around it are not looked through. -/
def hasName (column : Column) (name : String) : Bool := sameName column.name name

/-- The column as a field, unless its name is blank. -/
def field (column : Column) : Except Fault Field :=
  match column.clientType with
  | some type => Field.typed column.name type
  | none => Field.named column.name

end Column

/-- The columns of a table, in order. -/
structure Columns where
  columns : List Column := []
  deriving DecidableEq, Repr

namespace Columns

/-- The first column of the name. -/
def get? (table : Columns) (name : String) : Option Column := table.columns.find? (·.hasName name)

/-- The columns of the primary key. -/
def primaries (table : Columns) : List Column := table.columns.filter (·.isPrimary)

/-- The first column of the primary key. -/
def primary? (table : Columns) : Option Column := table.columns.find? (·.isPrimary)

/-- The first column in which the server numbers the rows. -/
def identity? (table : Columns) : Option Column := table.columns.find? (·.isIdentity)

/-- Whether the server numbers the rows in the column of the name. -/
def isIdentity (table : Columns) (name : String) : Bool := (table.get? name).any (·.isIdentity)

/-- Whether the server computes the column of the name. -/
def isGenerated (table : Columns) (name : String) : Bool := (table.get? name).any (·.isGenerated)

/-- The columns of the primary key as fields. -/
def primaryFields (table : Columns) : Except Fault FieldSet :=
  return .ofList (← table.primaries.mapM (·.field))

/-- All columns as fields. -/
def fieldSet (table : Columns) : Except Fault FieldSet :=
  return .ofList (← table.columns.mapM (·.field))

end Columns

end CrudSql

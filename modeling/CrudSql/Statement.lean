import CrudSql.Plan
import CrudSql.Predicate.Text

/-! Statements as values, and their text. A statement names its columns, rows and keys; the words and
    marks between them are written here and nowhere else. -/

namespace CrudSql

/-- The name of the column by which returned keys are told apart. -/
def orderColumn : String := "__RepoDb_OrderColumn"

/-- A value that a query computes. -/
inductive Expression where
  | count (text : String)
  | one
  /-- A function of a column's values, which may be cast to a type before. -/
  | aggregate (function : Aggregate) (field : Field) (cast : Option String)
  deriving DecidableEq, Repr

/-- What a query returns of the rows. -/
inductive Projection where
  | fields (fields : FieldSet)
  | value (expression : Expression) (label : String)
  deriving DecidableEq, Repr

/-- The rows that a query returns of all that are selected. -/
inductive Window where
  | limit (count : Nat)
  | offsetFetch (skip take : Int)
  | limitOffset (take skip : Int)
  | limitAfter (skip take : Int)
  | limitOnly (take : Int)
  deriving DecidableEq, Repr

/-- Fields or a value of the rows that a filter selects. -/
structure Query where
  top : Option Nat := none
  projection : Projection
  target : Target
  filter : Option Filter := none
  order : List OrderField := []
  window : Option Window := none

/-- A page of rows that are numbered by the statement itself. -/
structure NumberedQuery where
  fields : FieldSet
  target : Target
  filter : Option Filter
  order : List OrderField
  first : Int
  last : Int

/-- What an assignment to a column of a row that is already there reads. -/
inductive Assignment where
  | lastInsertId (field : Field)
  | parameter (field : Field) (row : Nat)
  | itself (field : Field)
  deriving DecidableEq, Repr

/-- What an insert does if the row is already there. -/
inductive Conflict where
  | fail
  /-- Assigns to the updated columns, if there are any, what the insert would have written. -/
  | onConflict (qualifiers updates : FieldSet)
  | onDuplicateKey (assignments : List Assignment)
  deriving DecidableEq, Repr

/-- Reported keys, perhaps with the number of the row. -/
structure Returned where
  keys : List KeyColumn := []
  row : Option Nat := none
  deriving DecidableEq, Repr

/-- What an insert writes. -/
inductive InsertSource where
  /-- Every column has its default. -/
  | defaults
  /-- The parameters of the columns in these rows of the batch. -/
  | rows (rows : List Nat)
  deriving DecidableEq, Repr

/-- An insert with the clauses that any dialect has for it. -/
structure Insert where
  target : Target
  columns : FieldSet
  /-- The keys that are reported before the values. -/
  output : List KeyColumn := []
  overriding : Bool := false
  source : InsertSource
  conflict : Conflict := .fail
  /-- The keys that are reported at the end. -/
  returning : Returned := {}
  deriving DecidableEq, Repr

/-- A merge of the rows of a source, each of which has its label. -/
structure Merge where
  target : Target
  /-- The columns of the source, whose rows are the parameters in the rows of the batch. -/
  source : FieldSet
  rows : Nat
  /-- Whether the source also has the number of the row. -/
  numbered : Bool
  /-- The columns by which rows match, or none if no rows are to match. -/
  qualifiers : Option FieldSet
  columns : FieldSet
  updates : FieldSet := .empty
  output : List KeyColumn
  deriving DecidableEq, Repr

/-- The rows that an update changes. -/
inductive UpdateScope where
  | filtered (filter : Option Filter)
  /-- The rows whose columns have the values of the parameters in the row of the batch. -/
  | matching (qualifiers : FieldSet)

/-- The statements that scripts are made of. -/
inductive Statement where
  | query (query : Query)
  | numberedQuery (query : NumberedQuery)
  | delete (target : Target) (filter : Option Filter)
  | truncate (table : Ident) (restartIdentity : Bool)
  | update (target : Target) (updates : FieldSet) (row : Nat) (scope : UpdateScope)
  | insert (insert : Insert)
  | merge (merge : Merge)
  /-- Reports the keys of a row of the batch, perhaps with the number of the row. -/
  | selectKeys (keys : List KeyColumn) (row : Nat) (numbered : Bool)
  /-- Lets the identity column of a table be written, or not any more. -/
  | identityInsert (table : Ident) (on : Bool)

open Sql

namespace Target

/-- The table with its hints. -/
def sql (target : Target) : Sql := path target.table ++ Sql.hints target.hints

end Target

namespace Expression

/-- The text of the value. -/
def atoms : Expression → List Atom
  | count text => [.fixed text]
  | one => [.fixed "1"]
  | aggregate .average field (some type) =>
    [.fixed "AVG(CAST(", .name field.name, .fixed " AS ", .verbatim type, .fixed "))"]
  | aggregate function field _ =>
    [.fixed (match function with
      | .max => "MAX("
      | .min => "MIN("
      | .sum => "SUM("
      | .average => "AVG("), .name field.name, .fixed ")"]

end Expression

namespace Projection

/-- What stands behind SELECT. -/
def sql : Projection → Sql
  | fields set => Sql.columns set.fields
  | value expression label => [.token expression.atoms] ++ named label

end Projection

namespace Window

/-- The clause behind the order. -/
def atoms : Window → List Atom
  | limit count => [.fixed "LIMIT ", .number count]
  | offsetFetch skip take =>
    [.fixed "OFFSET ", .number skip, .fixed " ROWS FETCH NEXT ", .number take, .fixed " ROWS ONLY"]
  | limitOffset take skip => [.fixed "LIMIT ", .number take, .fixed " OFFSET ", .number skip]
  | limitAfter skip take => [.fixed "LIMIT ", .number skip, .fixed ", ", .number take]
  | limitOnly take => [.fixed "LIMIT ", .number take]

end Window

namespace Query

/-- The whole query, up to its semicolon. -/
def sql (setting : Setting) (query : Query) : Sql :=
  word "SELECT" ++
  (match query.top with
    | some count => [.token [.fixed "TOP (", .number count, .fixed ")"]]
    | none => []) ++
  query.projection.sql ++ word "FROM" ++ query.target.sql ++ whereClause setting query.filter ++
  orderBy query.order ++
  (match query.window with
    | some window => [.token window.atoms]
    | none => []) ++
  stop

end Query

namespace NumberedQuery

/-- The name of the column that numbers the rows. -/
def rowNumber : String := "RowNumber"

/-- The query below numbers the rows, and the one above returns a range of the numbers. -/
def sql (setting : Setting) (query : NumberedQuery) : Sql :=
  word "WITH CTE AS" ++
  parenthesized (
    word "SELECT" ++ word "ROW_NUMBER() OVER" ++ parenthesized (orderBy query.order) ++
    named rowNumber ++ comma ++ Sql.columns query.fields.fields ++ word "FROM" ++ query.target.sql ++
    whereClause setting query.filter) ++
  word "SELECT" ++ Sql.columns query.fields.fields ++ word "FROM" ++ word "CTE" ++
  [.token [.fixed "WHERE (", .name rowNumber, .fixed " BETWEEN ", .number query.first,
    .fixed " AND ", .number query.last, .fixed ")"]] ++
  orderBy query.order ++ stop

end NumberedQuery

namespace Assignment

/-- The column, an equals sign and what it is set to. -/
def atoms : Assignment → List Atom
  | lastInsertId field =>
    [.name field.name, .fixed " = LAST_INSERT_ID(", .name field.name, .fixed ")"]
  | parameter field row => assignment row field
  | itself field => [.name field.name, .fixed " = ", .name field.name]

end Assignment

namespace Conflict

/-- The clause behind the values. -/
def sql : Conflict → Sql
  | fail => []
  | onConflict qualifiers updates =>
    word "ON CONFLICT" ++ parenthesized (Sql.columns qualifiers.fields) ++
    (if updates.isEmpty then word "DO NOTHING"
    else word "DO UPDATE SET" ++ list (updates.fields.map fun field =>
      [.name field.name, .fixed " = EXCLUDED.", .name field.name]))
  | onDuplicateKey assignments =>
    word "ON DUPLICATE KEY UPDATE" ++ list (assignments.map (·.atoms))

end Conflict

namespace Returned

/-- The clause at the end, if keys are reported. -/
def sql (returned : Returned) : Sql :=
  if returned.keys.isEmpty then []
  else
    word "RETURNING" ++ Sql.columns (returned.keys.map (·.field)) ++
    (match returned.row with
      | some row => comma ++ [.token [.number row]] ++ named orderColumn
      | none => [])

end Returned

/-- The keys of a row as it was written, perhaps with its number in the source. -/
def outputClause (keys : List KeyColumn) (numbered : Bool) : Sql :=
  if keys.isEmpty then []
  else
    word "OUTPUT" ++ list (keys.map (fun key => [.fixed "INSERTED.", .name key.field.name]) ++
      (if numbered then [[.fixed "S.", .name orderColumn]] else []))

/-- The items with commas between. -/
def commaSeparated : List Sql → Sql
  | [] => []
  | item :: rest => item ++ rest.flatMap fun item => comma ++ item

namespace Insert

/-- The target with the list of columns, if there are any. -/
def head (target : Target) (written : FieldSet) : Sql :=
  word "INSERT" ++ word "INTO" ++ target.sql ++
  (if written.isEmpty then [] else parenthesized (Sql.columns written.fields))

/-- The whole insert, up to its semicolon. -/
def sql (insert : Insert) : Sql :=
  head insert.target insert.columns ++ outputClause insert.output false ++
  (if insert.overriding then word "OVERRIDING SYSTEM VALUE" else []) ++
  (match insert.source with
    | .defaults => word "DEFAULT VALUES"
    | .rows rows =>
      word "VALUES" ++ commaSeparated (rows.map fun row =>
        parenthesized (parameters insert.columns.fields row))) ++
  insert.conflict.sql ++ insert.returning.sql ++ stop

end Insert

namespace Merge

/-- A row of the source, with its number if rows are numbered. -/
def sourceRow (merge : Merge) (row : Nat) : Sql :=
  parenthesized (parameters merge.source.fields row ++
    (if merge.numbered then comma ++ [.token [.number row]] else []))

/-- Two rows match if each qualifier has the same value in both, or NULL in both. -/
def matchAtoms (field : Field) : List Atom :=
  [.fixed "(T.", .name field.name, .fixed " = S.", .name field.name, .fixed " OR (T.",
    .name field.name, .fixed " IS NULL AND S.", .name field.name, .fixed " IS NULL))"]

/-- The whole merge, up to its semicolon. `T` is the table and `S` the source. -/
def sql (merge : Merge) : Sql :=
  word "MERGE" ++ merge.target.sql ++ word "AS T USING" ++
  parenthesized (word "VALUES" ++ commaSeparated ((List.range merge.rows).map merge.sourceRow)) ++
  word "AS S" ++
  parenthesized (Sql.columns merge.source.fields ++
    (if merge.numbered then comma ++ quoted orderColumn else [])) ++
  (match merge.qualifiers with
    | none => word "ON 1=0"
    | some qualifiers =>
      word "ON" ++ [.token (Atom.separated " AND " (qualifiers.fields.map matchAtoms))]) ++
  word "WHEN NOT MATCHED THEN INSERT" ++
  (if merge.columns.isEmpty then word "DEFAULT VALUES"
  else parenthesized (Sql.columns merge.columns.fields) ++ word "VALUES" ++
    parenthesized (aliasedColumns "S" merge.columns.fields)) ++
  (if merge.updates.isEmpty then []
  else word "WHEN MATCHED THEN UPDATE SET" ++ list (merge.updates.fields.map fun field =>
    [.fixed "T.", .name field.name, .fixed " = S.", .name field.name])) ++
  outputClause merge.output merge.numbered ++ stop

end Merge

namespace KeyColumn

/-- The value of the key after a row is written; none where the server has filled it. -/
def valueAtoms? (row : Nat) (key : KeyColumn) : Option (List Atom) :=
  match key.source with
  | .identity => some [.fixed "LAST_INSERT_ID()"]
  | .supplied => some [.placeholder (rowParameter key.field.name row)]
  | .suppliedOrIdentity =>
    some [.fixed "COALESCE(", .placeholder (rowParameter key.field.name row),
      .fixed ", LAST_INSERT_ID())"]
  | .server => none

/-- The value of the key under its name. -/
def selectAtoms? (row : Nat) (key : KeyColumn) : Option (List Atom) :=
  (key.valueAtoms? row).map fun value => value ++ [.fixed " AS ", .name key.field.name]

end KeyColumn

namespace UpdateScope

/-- The clause that selects the rows. -/
def sql (setting : Setting) (row : Nat) : UpdateScope → Sql
  | filtered filter => whereClause setting filter
  | matching qualifiers =>
    word "WHERE" ++ parenthesized
      [.token (Atom.separated " AND " (qualifiers.fields.map (assignment row)))]

end UpdateScope

namespace Statement

/-- The pieces of a statement. -/
def sql (setting : Setting) : Statement → Sql
  | .query q => q.sql setting
  | .numberedQuery q => q.sql setting
  | .delete target filter =>
    word "DELETE" ++ word "FROM" ++ target.sql ++ whereClause setting filter ++ stop
  | .truncate table restartIdentity =>
    word "TRUNCATE TABLE" ++ path table ++
    (if restartIdentity then word "RESTART IDENTITY" else []) ++ stop
  | .update target updates row scope =>
    word "UPDATE" ++ target.sql ++ word "SET" ++ assignments updates.fields row ++
    scope.sql setting row ++ stop
  | .insert i => i.sql
  | .merge m => m.sql
  | .selectKeys keys row numbered =>
    match keys.filterMap (·.selectAtoms? row) with
    | [] => []
    | items =>
      word "SELECT" ++ list (items ++
        (if numbered then [[.number row, .fixed " AS ", .name orderColumn]] else [])) ++ stop
  | .identityInsert table on =>
    word "BEGIN TRY SET IDENTITY_INSERT" ++ path table ++ word (if on then "ON" else "OFF") ++ stop ++
    word "END TRY BEGIN CATCH END CATCH" ++ stop

/-- The text of statements, one after the other. -/
def render (setting : Setting) (statements : List Statement) : String :=
  Sql.render setting (statements.flatMap (·.sql setting))

end Statement

end CrudSql

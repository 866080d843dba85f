import CrudSql.Plan.Check
import CrudSql.Request
import CrudSql.Trace

/-! Plans: requests to write rows, checked against the columns of the table. A plan says which columns
    are written, by which rows are matched and which keys are reported back, and every dialect builds its
    statements from the plan alone. -/

namespace CrudSql

/-- A table with the hints for it. -/
structure Target where
  table : Ident
  hints : Option String := none
  deriving DecidableEq, Repr

/-- Where the value of a reported key comes from. -/
inductive KeySource where
  /-- The server numbers the row. -/
  | identity
  /-- A parameter of the statement. -/
  | supplied
  /-- A parameter of the statement, or the server's number where the parameter is null. -/
  | suppliedOrIdentity
  /-- A default of the server. -/
  | server
  deriving DecidableEq, Repr

/-- A key that is reported back for every row. -/
structure KeyColumn where
  field : Field
  source : KeySource
  deriving DecidableEq, Repr

/-- An insert whose request has passed every check. -/
structure InsertPlan where
  target : Target
  /-- The columns that are written. -/
  columns : FieldSet
  keys : List KeyColumn
  rows : Nat
  writesIdentity : Bool
  deriving DecidableEq, Repr

/-- A merge whose request has passed every check. -/
structure MergePlan where
  target : Target
  /-- The fields of the request that are not generated. -/
  source : FieldSet
  /-- The columns that are written in a new row. -/
  columns : FieldSet
  qualifiers : FieldSet
  /-- The columns that are written in a row that is already there. -/
  updates : FieldSet
  identity : Option Field
  keys : List KeyColumn
  rows : Nat
  writesIdentity : Bool
  deriving DecidableEq, Repr

/-- An update row by row, or of the rows of a filter; then it has one row and no qualifiers. -/
structure UpdatePlan where
  target : Target
  updates : FieldSet
  qualifiers : FieldSet := .empty
  rows : Nat := 1
  deriving DecidableEq, Repr

namespace Plan

/-- Whether a set, if there is one, has the name. -/
def isAmong (name : String) (set : Option FieldSet) : Bool := set.any (·.contains name)

/-- A primary key that the server does not fill is among the fields. -/
def requiredPrimaries (fields : FieldSet) (columns : Columns) : Except Fault Unit :=
  columns.primaries.forM fun primary =>
    if primary.isIdentity || primary.hasDefault || fields.contains primary.name then .ok ()
    else .error (.primaryUnsupplied primary.name)

/-- The identity column of a table that has one; otherwise its primary key. -/
def reportedKeys (columns : Columns) (written : FieldSet) : Except Fault (List KeyColumn) :=
  match columns.identity? with
  | some identity => do
    let field ← identity.field
    return [⟨field, if written.contains field.name then .supplied else .identity⟩]
  | none =>
    columns.primaries.mapM fun primary => do
      let field ← primary.field
      return ⟨field, if written.contains field.name then .supplied else .server⟩

/-- The fields that match rows: those of the given qualifiers or, if there are none, those of the primary
    key, in the order and spelling of the request. -/
def matchFields (table : Ident) (fields : FieldSet) (columns : Columns)
    (qualifiers : Option FieldSet) : Trace FieldSet :=
  match qualifiers.filter fun set => !set.isEmpty with
  | some qualifiers =>
    match qualifiers.fields.find? fun field => !fields.contains field.name with
    | some missing => throw (.qualifierNotGiven missing.name)
    | none => return fields.filter fun field => qualifiers.contains field.name
  | none => do
    let primaries ← columns.primaryFields
    if primaries.isEmpty then throw (.primaryMissing table.name)
    match primaries.fields.find? fun field => !fields.contains field.name with
    | some missing => throw (.primaryNotGiven missing.name)
    | none =>
      Trace.emit (.qualifiersDefaulted table.name primaries.names)
      return fields.filter fun field => primaries.contains field.name

end Plan

open Plan

namespace InsertPlan

/-- The plan for an insert of the given number of rows. Generated columns are left out, and so is the
    identity column unless the caller chose to write it. -/
def of (engine : Engine) (request : InsertRequest) (rows : Nat) : Except Fault InsertPlan := do
  let table ← Check.table request.table
  Check.fields request.fields
  Check.rows rows
  Check.hints engine request.hints
  requiredPrimaries request.fields request.columns
  let columns := request.fields.filter fun field =>
    !request.columns.isGenerated field.name &&
      (engine.options.identityInsert || !request.columns.isIdentity field.name)
  Check.parameterLimit engine.setting columns.size rows
  Check.parameterNames engine.setting columns rows
  let keys ← reportedKeys request.columns columns
  return {
    target := ⟨table, request.hints⟩
    columns
    keys
    rows
    writesIdentity := columns.fields.any fun field => request.columns.isIdentity field.name }

end InsertPlan

namespace MergePlan

/-- Whether rows are matched by the identity. -/
def identityQualifies (plan : MergePlan) : Bool :=
  plan.identity.any fun identity => plan.qualifiers.contains identity.name

/-- The columns of a new row where an identity that rows are matched by is written too. -/
def columnsWithIdentity (plan : MergePlan) : FieldSet :=
  if plan.identityQualifies then plan.source else plan.columns

/-- The plan for a merge of the given number of rows. -/
def of (engine : Engine) (request : MergeRequest) (rows : Nat) : Trace MergePlan := do
  let table ← Check.table request.table
  Check.fields request.fields
  Check.rows rows
  Check.hints engine request.hints
  requiredPrimaries request.fields request.columns
  let source := request.fields.filter fun field => !request.columns.isGenerated field.name
  if source.isEmpty then throw (.allGenerated table.name)
  let qualifiers ← matchFields table source request.columns request.qualifiers
  Check.parameterLimit engine.setting source.size rows
  Check.parameterNames engine.setting source rows
  let columns := source.filter fun field =>
    engine.options.identityInsert || !request.columns.isIdentity field.name
  let identity ← request.columns.identity?.mapM (·.field)
  let updates := source.filter fun field =>
    !qualifiers.contains field.name && !request.columns.isIdentity field.name &&
      !isAmong field.name request.keep
  let keys ← reportedKeys request.columns columns
  let identityQualifies := identity.any fun field => qualifiers.contains field.name
  return {
    target := ⟨table, request.hints⟩
    source
    columns
    qualifiers
    updates
    identity
    keys := keys.map fun key =>
      if identityQualifies && key.source = .identity then { key with source := .suppliedOrIdentity }
      else key
    rows
    writesIdentity := columns.fields.any fun field => request.columns.isIdentity field.name }

end MergePlan

namespace UpdatePlan

/-- The plan for an update of the rows of a filter, whose parameters are led by the given text. Keys and
    generated columns keep their values. -/
def ofFilter (engine : Engine) (request : UpdateRequest) (lead : String) : Except Fault UpdatePlan := do
  let table ← Check.table request.table
  Check.fields request.fields
  Check.hints engine request.hints
  let updates := request.fields.filter fun field =>
    !(request.columns.get? field.name).any (fun column =>
        column.isPrimary || column.isIdentity || column.isGenerated) &&
      !isAmong field.name request.keep
  if updates.isEmpty then throw (.nothingUpdatable table.name)
  Check.parameterNames engine.setting updates 1
  let bindings ← Check.filter engine.setting lead updates.size request.filter
  updates.fields.forM fun field =>
    match bindings.find? fun (name, _) =>
        Text.lower (parameterBase field.name) == Text.lower name with
    | some (name, _) => .error (.filterCollides name field.name)
    | none => .ok ()
  return { target := ⟨table, request.hints⟩, updates }

/-- The plan for an update row by row. Qualifiers, the identity and generated columns keep their
    values. -/
def ofRows (engine : Engine) (request : UpdateRequest) : Trace UpdatePlan := do
  let table ← Check.table request.table
  Check.fields request.fields
  Check.rows request.rows
  Check.hints engine request.hints
  let qualifiers ← matchFields table request.fields request.columns request.qualifiers
  let updates := request.fields.filter fun field =>
    !qualifiers.contains field.name && !request.columns.isIdentity field.name &&
      !request.columns.isGenerated field.name && !isAmong field.name request.keep
  if updates.isEmpty then throw (.nothingUpdatable table.name)
  Check.parameterLimit engine.setting (updates.size + qualifiers.size) request.rows
  Check.parameterNames engine.setting (updates.union qualifiers) request.rows
  return { target := ⟨table, request.hints⟩, updates, qualifiers, rows := request.rows }

end UpdatePlan

end CrudSql

import CrudSql.Statement

/-! SQL Server: pages by OFFSET or by numbered rows, keys reported by OUTPUT, rows merged by MERGE. An
    identity column can be written only between two statements that allow it. -/

namespace CrudSql.SqlServer

/-- A number of a row, computed with 64 bits: at the bounds where it would pass them. -/
def saturate (number : Int) : Int := max (-0x8000000000000000) (min number 0x7fffffffffffffff)

/-- The statement for a page of the rows. -/
def page (setting : Setting) (target : Target) (fields : FieldSet) (filter : Option Filter)
    (order : List OrderField) (skip take : Int) : Statement :=
  if setting.offsetFetch then
    .query { projection := .fields fields, target, filter, order, window := some (.offsetFetch skip take) }
  else
    .numberedQuery {
      fields
      target
      filter
      order
      first := saturate (skip + 1)
      last := saturate (skip + take) }

/-- The statements, during which the identity column of the table may be written if need be. -/
def withIdentity (table : Ident) (writesIdentity : Bool) (statements : List Statement) :
    List Statement :=
  if writesIdentity then
    [.identityInsert table true] ++ statements ++ [.identityInsert table false]
  else statements

/-- Rows of an insert are reported in any order; above the threshold a merge that matches no row keeps
    their order by a number. -/
def insertsByMerge (options : Options) (plan : InsertPlan) : Bool :=
  !plan.columns.isEmpty && options.mergeInsertThreshold < plan.rows

/-- The statements for an insert: one for each row without columns, and otherwise one for all rows. -/
def insertStatements (options : Options) (plan : InsertPlan) : List Statement :=
  if plan.columns.isEmpty then
    List.replicate plan.rows <| .insert {
      target := plan.target
      columns := plan.columns
      output := plan.keys
      source := .defaults }
  else if insertsByMerge options plan then
    [.merge {
      target := plan.target
      source := plan.columns
      rows := plan.rows
      numbered := true
      qualifiers := none
      columns := plan.columns
      output := plan.keys }]
  else
    [.insert {
      target := plan.target
      columns := plan.columns
      output := plan.keys
      source := .rows (List.range plan.rows) }]

/-- The statements for an insert, with an event if they are written as a merge. -/
def insert (options : Options) (plan : InsertPlan) : Trace (List Statement) := do
  if insertsByMerge options plan then
    Trace.emit (.insertAsMerge plan.target.table.name plan.rows options.mergeInsertThreshold)
  return withIdentity plan.target.table plan.writesIdentity (insertStatements options plan)

/-- The statement for a merge of all rows. -/
def merge (plan : MergePlan) : List Statement :=
  withIdentity plan.target.table plan.writesIdentity
    [.merge {
      target := plan.target
      source := plan.source
      rows := plan.rows
      numbered := 1 < plan.rows && !plan.keys.isEmpty
      qualifiers := some plan.qualifiers
      columns := plan.columns
      updates := plan.updates
      output := plan.keys }]

end CrudSql.SqlServer

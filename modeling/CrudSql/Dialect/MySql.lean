import CrudSql.Statement

/-! MySQL: pages by LIMIT, rows merged by ON DUPLICATE KEY UPDATE. After each row of a batch a query
    reports its keys, which are parameters of the row or the last number that the server gave. Hints are
    not written. -/

namespace CrudSql.MySql

/-- The statement for a page of the rows. -/
def page (table : Ident) (fields : FieldSet) (filter : Option Filter) (order : List OrderField)
    (skip take : Int) : Statement :=
  .query {
    projection := .fields fields
    target := ⟨table, none⟩
    filter
    order
    window := some (if skip = 0 then .limitOnly take else .limitAfter skip take) }

/-- The insert of one row and the query for its keys. -/
def insertRow (plan : InsertPlan) (row : Nat) : List Statement :=
  [.insert { target := ⟨plan.target.table, none⟩, columns := plan.columns, source := .rows [row] },
    .selectKeys plan.keys row (1 < plan.rows)]

/-- The statements for an insert, row by row. -/
def insert (plan : InsertPlan) : List Statement := (List.range plan.rows).flatMap (insertRow plan)

/-- What is assigned in a row that is already there. The identity by which it was matched is made the
    last number, and there is always an assignment. -/
def assignments (plan : MergePlan) (row : Nat) : List Assignment :=
  let identity := match plan.identity with
    | some field => if plan.identityQualifies then [.lastInsertId field] else []
    | none => []
  let written := identity ++ plan.updates.fields.map fun field => .parameter field row
  if written.isEmpty then (plan.qualifiers.fields.take 1).map .itself else written

/-- The insert of one row, or the update of the row that is already there, and the query for its keys. -/
def mergeRow (plan : MergePlan) (row : Nat) : List Statement :=
  [.insert {
      target := ⟨plan.target.table, none⟩
      columns := plan.columnsWithIdentity
      source := .rows [row]
      conflict := .onDuplicateKey (assignments plan row) },
    .selectKeys plan.keys row (1 < plan.rows)]

/-- The statements for a merge, row by row. -/
def merge (plan : MergePlan) : List Statement := (List.range plan.rows).flatMap (mergeRow plan)

end CrudSql.MySql

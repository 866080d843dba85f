import CrudSql.Statement

/-! PostgreSQL: pages by LIMIT and OFFSET, keys reported by RETURNING, rows merged by ON CONFLICT. The
    rows of one statement are reported in any order, so each row of a batch has a statement of its own,
    marked with its number. Hints are not written. -/

namespace CrudSql.PostgreSql

/-- The statement for a page of the rows. -/
def page (table : Ident) (fields : FieldSet) (filter : Option Filter) (order : List OrderField)
    (skip take : Int) : Statement :=
  .query {
    projection := .fields fields
    target := ⟨table, none⟩
    filter
    order
    window := some (.limitOffset take skip) }

/-- The keys of a row, with its number if there are several rows. -/
def returned (keys : List KeyColumn) (rows row : Nat) : Returned where
  keys := keys
  row := if 1 < rows then some row else none

/-- The insert of one row. An identity that is written overrides the server's. -/
def insertRow (plan : InsertPlan) (row : Nat) : Statement :=
  .insert {
    target := ⟨plan.target.table, none⟩
    columns := plan.columns
    overriding := plan.writesIdentity && !plan.columns.isEmpty
    source := if plan.columns.isEmpty then .defaults else .rows [row]
    returning := returned plan.keys plan.rows row }

/-- The statements for an insert, row by row. -/
def insert (plan : InsertPlan) : List Statement := (List.range plan.rows).map (insertRow plan)

/-- The insert of one row, or the update of the row that is already there. -/
def mergeRow (plan : MergePlan) (row : Nat) : Statement :=
  .insert {
    target := ⟨plan.target.table, none⟩
    columns := plan.columnsWithIdentity
    overriding := plan.identity.any fun identity => plan.columnsWithIdentity.contains identity.name
    source := .rows [row]
    conflict := .onConflict plan.qualifiers plan.updates
    returning := returned plan.keys plan.rows row }

/-- The statements for a merge, row by row. -/
def merge (plan : MergePlan) : List Statement := (List.range plan.rows).map (mergeRow plan)

end CrudSql.PostgreSql

import CrudSql.Dialect.SqlServer
import CrudSql.Dialect.PostgreSql
import CrudSql.Dialect.MySql

/-! Building statements: a request is checked, planned and written in the dialect of an engine. -/

namespace CrudSql.Engine

/-- The largest number of rows that a window may reach: 2⁶³ − 1. -/
def maxRow : Int := 0x7fffffffffffffff

/-- The text before the parameters of an update's filter, which tells them from those that columns are
    set to. -/
def updateLead : String := "_"

/-- The filter for a predicate as the engine compares with NULL. -/
def filterOf (engine : Engine) (lead : String) (predicate : Option Predicate) : Option Filter :=
  predicate.map fun predicate =>
    { predicate, semantics := engine.options.nullSemantics, lead }

/-! ### Reading rows -/

/-- The clauses that limit the rows of a query, at their place in the dialect. -/
def limited (engine : Engine) (limit : Option Nat) (query : Query) : Query :=
  match limit, engine.dialect.rowLimit with
  | some count, .top => { query with top := some count }
  | some count, .limit => { query with window := some (.limit count) }
  | none, _ => query

/-- Fields of the rows that a filter selects. -/
def query (engine : Engine) (request : QueryRequest) : Except Fault Statement := do
  let table ← Check.table request.table
  Check.fields request.fields
  Check.hints engine request.hints
  if request.top = some 0 then throw .topZero
  let _ ← Check.filter engine.setting "" 0 request.filter
  return .query <| engine.limited request.top {
    projection := .fields request.fields
    target := ⟨table, request.hints⟩
    filter := engine.filterOf "" request.filter
    order := request.order }

/-- The rows after `skip` rows, at most `take` of them. -/
def page (engine : Engine) (request : PagedRequest) (skip take : Int) : Except Fault Statement := do
  let table ← Check.table request.table
  Check.fields request.fields
  Check.hints engine request.hints
  if request.order.isEmpty then throw .orderMissing
  if maxRow < skip + take then throw .windowOverflow
  let _ ← Check.filter engine.setting "" 0 request.filter
  let filter := engine.filterOf "" request.filter
  return match engine.dialect with
    | .sqlServer =>
      SqlServer.page engine.setting ⟨table, request.hints⟩ request.fields filter request.order skip take
    | .postgreSql => PostgreSql.page table request.fields filter request.order skip take
    | .mySql => MySql.page table request.fields filter request.order skip take

/-- A page by its number, from 0, with the same number of rows on every page. -/
def batchQuery (engine : Engine) (request : PagedRequest) (page rowsPerBatch : Int) :
    Except Fault Statement := do
  if page < 0 then throw (.pageNegative page)
  if rowsPerBatch < 1 then throw (.rowsTooFew rowsPerBatch)
  if maxRow < page * rowsPerBatch then throw .pageOverflow
  engine.page request (page * rowsPerBatch) rowsPerBatch

/-- A page by the rows before it. -/
def skipQuery (engine : Engine) (request : PagedRequest) (skip take : Int) :
    Except Fault Statement := do
  if skip < 0 then throw (.skipNegative skip)
  if take < 1 then throw (.takeTooFew take)
  engine.page request skip take

/-- One value over the rows of a request. -/
def scalar (engine : Engine) (expression : Expression) (label : String) (limit : Option Nat)
    (request : RowsRequest) : Except Fault Statement := do
  let table ← Check.table request.table
  Check.hints engine request.hints
  let _ ← Check.filter engine.setting "" 0 request.filter
  return .query <| engine.limited limit {
    projection := .value expression label
    target := ⟨table, request.hints⟩
    filter := engine.filterOf "" request.filter }

/-- The number of rows. -/
def count (engine : Engine) (request : RowsRequest) : Except Fault Statement :=
  engine.scalar (.count engine.dialect.countExpression) "CountValue" none request

/-- A value for one of the rows, if there is any. -/
def anyRow (engine : Engine) (request : RowsRequest) : Except Fault Statement :=
  engine.scalar .one "ExistsValue" (some 1) request

/-- The name under which the value of a function is returned. -/
def aggregateAlias : Aggregate → String
  | .max => "MaxValue"
  | .min => "MinValue"
  | .sum => "SumValue"
  | .average => "AverageValue"

/-- A function of the values of a column. -/
def aggregate (engine : Engine) (function : Aggregate) (field : Field) (request : RowsRequest) :
    Except Fault Statement :=
  engine.scalar (.aggregate function field engine.setting.averageType) (aggregateAlias function) none
    request

/-! ### Writing rows -/

/-- The statements for an insert of the given number of rows. On SQL Server it may leave an event. -/
def insert (engine : Engine) (request : InsertRequest) (rows : Nat) : Trace (List Statement) := do
  let plan ← InsertPlan.of engine request rows
  match engine.dialect with
  | .sqlServer => SqlServer.insert engine.options plan
  | .postgreSql => return PostgreSql.insert plan
  | .mySql => return MySql.insert plan

/-- The statements for a merge of the given number of rows. -/
def merge (engine : Engine) (request : MergeRequest) (rows : Nat) : Trace (List Statement) := do
  let plan ← MergePlan.of engine request rows
  return match engine.dialect with
    | .sqlServer => SqlServer.merge plan
    | .postgreSql => PostgreSql.merge plan
    | .mySql => MySql.merge plan

/-- One statement for all rows that the filter selects. -/
def update (engine : Engine) (request : UpdateRequest) : Except Fault Statement := do
  let plan ← UpdatePlan.ofFilter engine request updateLead
  return .update plan.target plan.updates 0 (.filtered (engine.filterOf updateLead request.filter))

/-- A statement for each row of the batch, by its qualifiers. -/
def updateAll (engine : Engine) (request : UpdateRequest) : Trace (List Statement) := do
  let plan ← UpdatePlan.ofRows engine request
  return (List.range plan.rows).map fun row =>
    .update plan.target plan.updates row (.matching plan.qualifiers)

/-- The rows that a filter selects are deleted; without a filter all are. -/
def delete (engine : Engine) (request : RowsRequest) : Except Fault Statement := do
  let table ← Check.table request.table
  Check.hints engine request.hints
  let _ ← Check.filter engine.setting "" 0 request.filter
  return .delete ⟨table, request.hints⟩ (engine.filterOf "" request.filter)

/-- All rows are deleted at once. PostgreSQL numbers new rows from the start again. -/
def truncate (engine : Engine) (table : String) : Except Fault Statement := do
  let table ← Check.table table
  return .truncate table (engine.dialect = .postgreSql)

/-! ### All requests -/

/-- The statements that a request asks for. -/
def statements (engine : Engine) : Request → Trace (List Statement)
  | .query request => return [← engine.query request]
  | .batchQuery request page rowsPerBatch => return [← engine.batchQuery request page rowsPerBatch]
  | .skipQuery request skip take => return [← engine.skipQuery request skip take]
  | .count request => return [← engine.count request]
  | .countAll table hints => return [← engine.count { table, hints }]
  | .anyRow request => return [← engine.anyRow request]
  | .aggregate function field request => return [← engine.aggregate function field request]
  | .aggregateAll function field table hints =>
    return [← engine.aggregate function field { table, hints }]
  | .insert request => engine.insert request 1
  | .insertAll request => engine.insert request request.rows
  | .update request => return [← engine.update request]
  | .updateAll request => engine.updateAll request
  | .merge request => engine.merge request 1
  | .mergeAll request => engine.merge request request.rows
  | .delete request => return [← engine.delete request]
  | .deleteAll table hints => return [← engine.delete { table, hints }]
  | .truncate table => return [← engine.truncate table]

/-- The text of the statements that a request asks for. -/
def build (engine : Engine) (request : Request) : Trace String := do
  let statements ← engine.statements request
  let sql := Statement.render engine.setting statements
  Trace.emit (.built engine.dialect.name request.verb sql)
  return sql

end CrudSql.Engine

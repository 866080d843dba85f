import CrudSql.Column
import CrudSql.Predicate

/-! What a caller asks for: the statements that can be built, each with the parts that it is made from. -/

namespace CrudSql

/-- Functions over the values of a column. -/
inductive Aggregate where
  | max
  | min
  | sum
  | average
  deriving DecidableEq, Repr

/-- Rows of a table, all of them or those of a predicate. -/
structure RowsRequest where
  table : String
  filter : Option Predicate := none
  hints : Option String := none

/-- Fields of the rows, perhaps in an order and not all of them. -/
structure QueryRequest extends RowsRequest where
  fields : FieldSet
  order : List OrderField := []
  /-- The most rows that are returned. -/
  top : Option Nat := none

/-- Fields of a window of ordered rows. -/
structure PagedRequest extends RowsRequest where
  fields : FieldSet
  order : List OrderField

/-- Rows to be inserted, with the columns of their table. -/
structure InsertRequest where
  table : String
  fields : FieldSet
  columns : Columns
  rows : Nat := 1
  hints : Option String := none

/-- Rows to be updated: those of a filter, or a batch of rows by their qualifiers. -/
structure UpdateRequest where
  table : String
  fields : FieldSet
  columns : Columns
  filter : Option Predicate := none
  /-- The fields by which rows are matched. -/
  qualifiers : Option FieldSet := none
  /-- Fields that keep their value. -/
  keep : Option FieldSet := none
  rows : Nat := 1
  hints : Option String := none

/-- Rows to be inserted or, where they are already there, updated. -/
structure MergeRequest where
  table : String
  fields : FieldSet
  columns : Columns
  /-- The fields by which rows are matched. -/
  qualifiers : Option FieldSet := none
  /-- Fields that keep their value in a row that is already there. -/
  keep : Option FieldSet := none
  rows : Nat := 1
  hints : Option String := none

/-- The operations that a caller may ask for. -/
inductive Request where
  | query (request : QueryRequest)
  /-- Rows by the number of their page, from 0, and the rows on a page. -/
  | batchQuery (request : PagedRequest) (page rowsPerBatch : Int)
  /-- Rows after those that are skipped. -/
  | skipQuery (request : PagedRequest) (skip take : Int)
  | count (request : RowsRequest)
  | countAll (table : String) (hints : Option String)
  | anyRow (request : RowsRequest)
  | aggregate (function : Aggregate) (field : Field) (request : RowsRequest)
  | aggregateAll (function : Aggregate) (field : Field) (table : String) (hints : Option String)
  /-- One row, whatever the number of rows in the request. -/
  | insert (request : InsertRequest)
  | insertAll (request : InsertRequest)
  /-- The rows of the filter. -/
  | update (request : UpdateRequest)
  /-- Row by row, each matched by the qualifiers. -/
  | updateAll (request : UpdateRequest)
  /-- One row, whatever the number of rows in the request. -/
  | merge (request : MergeRequest)
  | mergeAll (request : MergeRequest)
  | delete (request : RowsRequest)
  | deleteAll (table : String) (hints : Option String)
  | truncate (table : String)

namespace Request

/-- The name of the operation in a log. -/
def verb : Request → String
  | query _ => "Query"
  | batchQuery .. => "BatchQuery"
  | skipQuery .. => "SkipQuery"
  | count _ => "Count"
  | countAll .. => "CountAll"
  | anyRow _ => "Exists"
  | aggregate .max .. => "Max"
  | aggregate .min .. => "Min"
  | aggregate .sum .. => "Sum"
  | aggregate .average .. => "Average"
  | aggregateAll .max .. => "MaxAll"
  | aggregateAll .min .. => "MinAll"
  | aggregateAll .sum .. => "SumAll"
  | aggregateAll .average .. => "AverageAll"
  | insert _ => "Insert"
  | insertAll _ => "InsertAll"
  | update _ => "Update"
  | updateAll _ => "UpdateAll"
  | merge _ => "Merge"
  | mergeAll _ => "MergeAll"
  | delete _ => "Delete"
  | deleteAll .. => "DeleteAll"
  | truncate _ => "Truncate"

end Request

end CrudSql

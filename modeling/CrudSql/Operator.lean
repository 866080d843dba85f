/-! The operators that a condition may apply to a column, with their spelling in SQL and the names by
    which errors call them. -/

namespace CrudSql

/-- Operators that compare a column with one value. -/
inductive Comparison where
  | equal
  | notEqual
  | less
  | greater
  | lessOrEqual
  | greaterOrEqual
  | like
  | notLike
  deriving DecidableEq, Repr

/-- The operators of conditions. -/
inductive Operator where
  | compare (comparison : Comparison)
  /-- Between two bounds, or outside them. -/
  | range (negated : Bool)
  /-- Among the values of a list, or not among them. -/
  | among (negated : Bool)
  deriving DecidableEq, Repr

namespace Comparison

/-- The operator in SQL. -/
def sql : Comparison → String
  | equal => "="
  | notEqual => "<>"
  | less => "<"
  | greater => ">"
  | lessOrEqual => "<="
  | greaterOrEqual => ">="
  | like => "LIKE"
  | notLike => "NOT LIKE"

/-- The name in an error. -/
def name : Comparison → String
  | equal => "Equal"
  | notEqual => "NotEqual"
  | less => "LessThan"
  | greater => "GreaterThan"
  | lessOrEqual => "LessThanOrEqual"
  | greaterOrEqual => "GreaterThanOrEqual"
  | like => "Like"
  | notLike => "NotLike"

end Comparison

namespace Operator

/-- The keyword or the sign in SQL. -/
def sql : Operator → String
  | compare comparison => comparison.sql
  | range negated => if negated then "NOT BETWEEN" else "BETWEEN"
  | among negated => if negated then "NOT IN" else "IN"

/-- The name in an error. -/
def name : Operator → String
  | compare comparison => comparison.name
  | range negated => if negated then "NotBetween" else "Between"
  | among negated => if negated then "NotIn" else "In"

/-- Every operator. -/
def all : List Operator :=
  [compare .equal, compare .notEqual, compare .less, compare .greater, compare .lessOrEqual,
   compare .greaterOrEqual, compare .like, compare .notLike, range false, range true, among false,
   among true]

/-- The operator with the given spelling in SQL. -/
def ofSql? (text : String) : Option Operator := all.find? (·.sql == text)

end Operator

end CrudSql

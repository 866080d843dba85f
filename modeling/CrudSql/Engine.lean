import CrudSql.Setting

/-! Database engines: a dialect of SQL with the settings and the options under which its statements are
    built. -/

namespace CrudSql

/-- The dialects of SQL that statements are written in. -/
inductive Dialect where
  | sqlServer
  | postgreSql
  | mySql
  deriving DecidableEq, Repr

/-- Where a statement says how many rows it returns at most. -/
inductive RowLimit where
  /-- Before the list of fields. -/
  | top
  /-- At the end. -/
  | limit
  deriving DecidableEq, Repr

namespace Dialect

/-- The name in a log and in an error. -/
def name : Dialect → String
  | sqlServer => "SqlServer"
  | postgreSql => "PostgreSql"
  | mySql => "MySql"

/-- The settings of an engine that are not changed by the caller. -/
def setting : Dialect → Setting
  | sqlServer => .sqlServer
  | postgreSql => .postgreSql
  | mySql => .mySql

/-- Where the dialect says how many rows are returned. -/
def rowLimit : Dialect → RowLimit
  | sqlServer => .top
  | postgreSql | mySql => .limit

/-- The expression that counts rows. -/
def countExpression : Dialect → String
  | sqlServer => "COUNT_BIG(1)"
  | postgreSql | mySql => "COUNT(*)"

end Dialect

/-- A dialect with the settings and options that apply to it. -/
structure Engine where
  dialect : Dialect
  setting : Setting := dialect.setting
  options : Options := {}
  deriving DecidableEq, Repr

end CrudSql

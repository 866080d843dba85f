import CrudSql.Binary64
import CrudSql.Calendar
import CrudSql.Uuid

/-! Values that are bound to the parameters of a statement. Their shape decides the form of a condition;
    what they hold never reaches the text of the statement. -/

namespace CrudSql

/-- Values that are neither NULL nor lists. -/
inductive Scalar where
  | bool (value : Bool)
  | int (value : Int)
  | float (value : Binary64)
  | text (value : String)
  | bytes (value : List UInt8)
  | uuid (value : Uuid)
  | dateTime (value : LocalDateTime)
  deriving DecidableEq, Repr

/-- What a parameter is bound to. -/
inductive Value where
  | null
  | scalar (value : Scalar)
  /-- The values of a list, or the bounds of a range. -/
  | list (values : List Value)

namespace Value

/-- Whether the value is NULL. -/
def isNull : Value → Bool
  | null => true
  | _ => false

/-- The values of a list. -/
def asList? : Value → Option (List Value)
  | list values => some values
  | _ => none

end Value

end CrudSql

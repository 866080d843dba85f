import CrudSql.Field
import CrudSql.Value

/-! Conditions on one column: a test of its value, whose operand has the shape that the operator asks
    for. -/

namespace CrudSql

/-- Tests of a column's value. -/
inductive Test where
  | null (negated : Bool)
  | compare (comparison : Comparison) (operand : Scalar)
  | range (negated : Bool) (low high : Value)
  | among (negated : Bool) (values : List Value)

namespace Test

/-- The test that an operator makes with an operand, if the operand has the right shape. A comparison
    with NULL is a test for NULL, and only equality may be compared so. -/
def of (field : Field) (operator : Operator) (operand : Value) : Except Fault Test :=
  match operator, operand with
  | .among negated, .list values => .ok (.among negated values)
  | .among _, _ => .error (.listRequired operator field.name)
  | .range negated, .list [low, high] => .ok (.range negated low high)
  | .range _, .list values => .error (.pairLength operator field.name values.length)
  | .range _, _ => .error (.pairRequired operator field.name)
  | .compare _, .list _ => .error (.listRefused operator field.name)
  | .compare .equal, .null => .ok (.null false)
  | .compare .notEqual, .null => .ok (.null true)
  | .compare _, .null => .error (.nullRefused operator field.name)
  | .compare comparison, .scalar value => .ok (.compare comparison value)

/-- The operator that makes the test. -/
def operator : Test → Operator
  | null negated => .compare (if negated then .notEqual else .equal)
  | compare comparison _ => .compare comparison
  | range negated _ _ => .range negated
  | among negated _ => .among negated

/-- The operand that the test was made with. -/
def operand : Test → Value
  | null _ => .null
  | compare _ value => .scalar value
  | range _ low high => .list [low, high]
  | among _ values => .list values

/-- A test is what its operator makes with its operand. -/
theorem of_operator_operand (field : Field) (test : Test) :
    of field test.operator test.operand = .ok test := by
  cases test with
  | null negated => cases negated <;> rfl
  | compare comparison value => cases comparison <;> rfl
  | range | among => rfl

/-- The parameters of a test: what each adds to the name of the condition, and the value that it is
    bound to. A list beyond the array threshold is bound as a whole. -/
def slots (arrayThreshold : Option Nat) : Test → List (String × Value)
  | null _ => []
  | compare _ value => [("", .scalar value)]
  | range _ low high => [("_Left", low), ("_Right", high)]
  | among _ values =>
    if values.isEmpty then []
    else if exceeds values.length arrayThreshold then [("_In", .list values)]
    else values.mapIdx fun i value => (s!"_In_{i}", value)

end Test

/-- A test of the values in a column. -/
structure Condition where
  field : Field
  test : Test
  /-- The name for the parameters, if they are not to be named after the field. -/
  parameter : Option String := none

namespace Condition

/-- The condition on the column that a text names. -/
def of (name : String) (operator : Operator) (operand : Value) : Except Fault Condition := do
  let field ← Field.named name
  return { field, test := ← Test.of field operator operand }

/-- The condition with a name for its parameters. -/
def withParameter (condition : Condition) (name : String) : Condition :=
  { condition with parameter := some name }

end Condition

end CrudSql

import CrudSql.Json
import CrudSql.Predicate

/-! Predicates from JSON objects that give a value for each column. -/

namespace CrudSql

namespace Condition

/-- The condition that a column has a value, or one of the values of a list. -/
def ofMember (key : String) (json : Json) : Except Fault Condition :=
  match Value.ofJson? json with
  | none => .error (.scalarRequired key)
  | some (.list values) => of key (.among false) (.list values)
  | some value => of key (.compare .equal) value

end Condition

namespace Predicate

/-- All the conditions that the members of an object stand for, in the order of their keys. -/
def ofJson : Json → Except Fault Predicate
  | .object members => do
    let conditions ← (Json.sortedMembers members).mapM fun (key, json) => Condition.ofMember key json
    return ofList .and (conditions.map .condition)
  | _ => .error .objectRequired

end Predicate

end CrudSql

import CrudSql.Predicate
import CrudSql.Sql

/-! The SQL text of a predicate. Groups stand in parentheses, and a group without conditions leaves
    nothing; the placeholders have the names of the predicate's bindings. -/

namespace CrudSql

/-- The keyword between the conditions of a group. -/
def Connective.sql : Connective → String
  | and => " AND "
  | or => " OR "

/-- How the values of a list are written. -/
inductive ListForm where
  /-- Each value has a placeholder in a list. -/
  | inline
  /-- Each value has a placeholder in a row of a table of values. -/
  | values
  /-- The whole list has one placeholder. -/
  | array
  deriving DecidableEq, Repr

/-- The form for a list of the given length. -/
def ListForm.of (setting : Setting) (length : Nat) : ListForm :=
  if exceeds length setting.arrayThreshold then array
  else if exceeds length setting.valuesThreshold then values
  else inline

namespace Test

/-- The only column of the table from which the values of a long list are read. -/
def valueColumn : Atom := .ownName "Value"

/-- The test of a column, given the parameters for its slots. -/
def atoms (setting : Setting) (semantics : NullSemantics) (column : Atom) (parameters : List Atom) :
    Test → List Atom
  | null negated => [column, .fixed (if negated then " IS NOT NULL" else " IS NULL")]
  | compare comparison _ =>
    if comparison = .notEqual ∧ semantics = .nullNotEqual then
      [.fixed "(", column, .fixed " <> "] ++ parameters ++
        [.fixed " OR ", column, .fixed " IS NULL)"]
    else [column, .fixed (" " ++ comparison.sql ++ " ")] ++ parameters
  | range negated _ _ =>
    [column, .fixed (" " ++ (Operator.range negated).sql ++ " ")] ++
      Atom.separated " AND " (parameters.map fun parameter => [parameter])
  | among negated values =>
    if values.isEmpty then [.fixed (if negated then "1 = 1" else "1 = 0")]
    else match ListForm.of setting values.length with
      | .array =>
        [column, .fixed (if negated then " <> ALL(" else " = ANY(")] ++ parameters ++ [.fixed ")"]
      | .values =>
        [column, .fixed (" " ++ (Operator.among negated).sql ++ " (SELECT "),
          valueColumn, .fixed " FROM (VALUES "] ++
        Atom.listed (parameters.map fun parameter => [.fixed "(", parameter, .fixed ")"]) ++
        [.fixed ") AS Q (", valueColumn, .fixed "))"]
      | .inline =>
        [column, .fixed (" " ++ (Operator.among negated).sql ++ " (")] ++
        Atom.listed (parameters.map fun parameter => [parameter]) ++ [.fixed ")"]

end Test

namespace NamedCondition

/-- The text of a condition, whose placeholders have the names of its bindings. -/
def atoms (setting : Setting) (semantics : NullSemantics) (lead : String) (named : NamedCondition) :
    List Atom :=
  named.condition.test.atoms setting semantics (.name named.condition.field.name)
    ((named.bindings setting.arrayThreshold lead).map fun (parameter, _) => .placeholder parameter)

end NamedCondition

namespace Forest

/-- The items with a connective between them, except for groups without leaves. -/
def atoms {α : Type} (leafAtoms : α → List Atom) (connective : Connective) (isFirst : Bool) :
    Forest α → List Atom
  | nil => []
  | leaf value rest =>
    (if isFirst then [] else [.fixed connective.sql]) ++ leafAtoms value ++
      rest.atoms leafAtoms connective false
  | group negated inward inner rest =>
    if inner.isBare then rest.atoms leafAtoms connective isFirst
    else
      (if isFirst then [] else [.fixed connective.sql]) ++
        (if negated then [.fixed "NOT "] else []) ++ [.fixed "("] ++
        inner.atoms leafAtoms inward true ++ [.fixed ")"] ++
        rest.atoms leafAtoms connective false

end Forest

namespace Predicate

/-- The predicate, unless it has no condition. The parameters are led by the given text. -/
def atoms? (setting : Setting) (semantics : NullSemantics) (lead : String) (predicate : Predicate) :
    Option (List Atom) :=
  if predicate.isEmpty then none
  else some <|
    (if predicate.negated then [.fixed "NOT "] else []) ++ [.fixed "("] ++
      (predicate.named setting.arrayThreshold).atoms (·.atoms setting semantics lead)
        predicate.connective true ++
      [.fixed ")"]

/-- The text of the predicate, unless it has no condition. -/
def text? (setting : Setting) (semantics : NullSemantics) (lead : String) (predicate : Predicate) :
    Option String :=
  (predicate.atoms? setting semantics lead).map fun atoms => Sql.render setting [.token atoms]

end Predicate

/-- A predicate that selects rows, with the way in which it is written. -/
structure Filter where
  predicate : Predicate
  semantics : NullSemantics
  /-- Text before the name of every parameter. -/
  lead : String := ""

namespace Sql

/-- The clause for the rows that a filter selects; none for all rows. -/
def whereClause (setting : Setting) : Option Filter → Sql
  | none => []
  | some filter =>
    match filter.predicate.atoms? setting filter.semantics filter.lead with
    | none => []
    | some atoms => word "WHERE" ++ [.token atoms]

end Sql

end CrudSql

import CrudSql.Condition
import CrudSql.ParameterName

/-! Predicates: groups of conditions and of further groups, joined by AND or by OR. The parameters of a
    predicate are named in the order of its conditions. -/

namespace CrudSql

/-- How the conditions of a group are joined. -/
inductive Connective where
  | and
  | or
  deriving DecidableEq, Repr

/-- Leaves and groups side by side, each followed by the rest. -/
inductive Forest (α : Type) where
  | nil
  | leaf (value : α) (rest : Forest α)
  | group (negated : Bool) (connective : Connective) (inner rest : Forest α)

namespace Forest
variable {α β : Type} {σ : Type}

/-- The leaves from left to right, at any depth. -/
def leaves : Forest α → List α
  | nil => []
  | leaf value rest => value :: rest.leaves
  | group _ _ inner rest => inner.leaves ++ rest.leaves

/-- Whether there is no leaf at any depth. -/
def isBare : Forest α → Bool
  | nil => true
  | leaf _ _ => false
  | group _ _ inner rest => inner.isBare && rest.isBare

/-- The number of leaves and groups side by side. -/
def width : Forest α → Nat
  | nil => 0
  | leaf _ rest => rest.width + 1
  | group _ _ _ rest => rest.width + 1

/-- Two forests side by side. -/
def append : Forest α → Forest α → Forest α
  | nil, other => other
  | leaf value rest, other => leaf value (rest.append other)
  | group negated connective inner rest, other => group negated connective inner (rest.append other)

instance : Append (Forest α) := ⟨append⟩

/-- Maps the leaves from left to right with a state. -/
def mapAccum (f : σ → α → β × σ) : σ → Forest α → Forest β × σ
  | state, nil => (nil, state)
  | state, leaf value rest =>
    let (value, state) := f state value
    let (rest, state) := mapAccum f state rest
    (leaf value rest, state)
  | state, group negated connective inner rest =>
    let (inner, state) := mapAccum f state inner
    let (rest, state) := mapAccum f state rest
    (group negated connective inner rest, state)

theorem leaves_append (a b : Forest α) : (a ++ b).leaves = a.leaves ++ b.leaves := by
  show (a.append b).leaves = _
  induction a with
  | nil => rfl
  | leaf value rest ih => simp [append, leaves, ih]
  | group negated connective inner rest _ ih => simp [append, leaves, ih]

theorem isBare_iff {forest : Forest α} : forest.isBare = true ↔ forest.leaves = [] := by
  induction forest with
  | nil => simp [isBare, leaves]
  | leaf => simp [isBare, leaves]
  | group negated connective inner rest ih₁ ih₂ => simp [isBare, leaves, ih₁, ih₂]

end Forest

/-- A group of conditions and groups. -/
structure Predicate where
  items : Forest Condition := .nil
  connective : Connective := .and
  negated : Bool := false

/-- What a group may hold. -/
inductive PredicateItem where
  | condition (condition : Condition)
  | group (predicate : Predicate)

namespace PredicateItem

/-- An item as a forest of its own. -/
def forest : PredicateItem → Forest Condition
  | condition value => .leaf value .nil
  | group predicate => .group predicate.negated predicate.connective predicate.items .nil

end PredicateItem

namespace Predicate

/-- The group of the items, joined by a connective. -/
def ofList (connective : Connective) (items : List PredicateItem) : Predicate where
  items := items.foldr (fun item rest => item.forest ++ rest) .nil
  connective := connective

/-- A group of one condition. -/
def ofCondition (condition : Condition) : Predicate := { items := .leaf condition .nil }

/-- The group with an item at its end. -/
def push (predicate : Predicate) (item : PredicateItem) : Predicate :=
  { predicate with items := predicate.items ++ item.forest }

/-- The group with the opposite meaning. -/
def negate (predicate : Predicate) : Predicate := { predicate with negated := !predicate.negated }

/-- Whether there is no condition at any depth. -/
def isEmpty (predicate : Predicate) : Bool := predicate.items.isBare

/-- The conditions from left to right, at any depth. -/
def conditions (predicate : Predicate) : List Condition := predicate.items.leaves

end Predicate

/-- A condition with the name that its parameters start with. -/
structure NamedCondition where
  condition : Condition
  name : String

namespace Condition

/-- Names a condition after its override or its field, so that its parameters clash with none before. -/
def assignName (arrayThreshold : Option Nat) (taken : TakenNames) (condition : Condition) :
    NamedCondition × TakenNames :=
  let base := parameterBase (condition.parameter.getD condition.field.name)
  let (name, taken) := taken.assign base ((condition.test.slots arrayThreshold).map (·.1))
  ({ condition, name }, taken)

end Condition

namespace NamedCondition

/-- The parameters of the condition with their values, each name led by the given text. -/
def bindings (arrayThreshold : Option Nat) (lead : String) (named : NamedCondition) :
    List (String × Value) :=
  (named.condition.test.slots arrayThreshold).map fun (ending, value) =>
    (lead ++ named.name ++ ending, value)

end NamedCondition

namespace Predicate

/-- The conditions with their names. -/
def named (arrayThreshold : Option Nat) (predicate : Predicate) : Forest NamedCondition :=
  (predicate.items.mapAccum (Condition.assignName arrayThreshold) ∅).1

/-- The parameters of the predicate with their values, in the order of its conditions. -/
def bindings (arrayThreshold : Option Nat) (lead : String) (predicate : Predicate) :
    List (String × Value) :=
  (predicate.named arrayThreshold).leaves.flatMap (·.bindings arrayThreshold lead)

end Predicate

end CrudSql

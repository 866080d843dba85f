import Mathlib.Data.Option.Basic
import Mathlib.Data.List.Forall2
import CrudSql.Predicate.Text
import CrudSql.Proofs.Predicate.Names

/-! Predicates that differ only in what their values hold. A test looks at a value to see whether it is NULL
    and how long a list is, and at nothing else. So such predicates have the same text, and the same names
    for their parameters. -/

namespace CrudSql

/-- Values of one shape: NULL, neither NULL nor a list, or lists of one length. -/
inductive Value.SameShape : Value → Value → Prop
  | null : SameShape .null .null
  | scalar (a b : Scalar) : SameShape (.scalar a) (.scalar b)
  | list {a b : List Value} (h : a.length = b.length) : SameShape (.list a) (.list b)

/-! ### Tests -/

namespace Test
variable {a b : Test}

/-- The same operator with operands of one shape. -/
def SameShape (a b : Test) : Prop := a.operator = b.operator ∧ a.operand.SameShape b.operand

theorem SameShape.cases (h : a.SameShape b) :
    (∃ negated, a = .null negated ∧ b = .null negated) ∨
    (∃ comparison v w, a = .compare comparison v ∧ b = .compare comparison w) ∨
    (∃ negated v₁ v₂ w₁ w₂, a = .range negated v₁ v₂ ∧ b = .range negated w₁ w₂) ∨
    (∃ negated vs ws, vs.length = ws.length ∧ a = .among negated vs ∧ b = .among negated ws) := by
  obtain ⟨hoperator, hoperand⟩ := h
  cases a with
  | null m =>
    cases b with
    | null n =>
      have hmn : m = n := by
        cases m <;> cases n <;> first | rfl | cases hoperator
      exact Or.inl ⟨n, by rw [hmn], rfl⟩
    | compare | range | among => cases hoperand
  | compare comparison v =>
    cases b with
    | compare comparison' w =>
      cases hoperator
      exact Or.inr (Or.inl ⟨comparison, v, w, rfl, rfl⟩)
    | null | range | among => cases hoperand
  | range negated v₁ v₂ =>
    cases b with
    | range negated' w₁ w₂ =>
      cases hoperator
      exact Or.inr (Or.inr (Or.inl ⟨negated, v₁, v₂, w₁, w₂, rfl, rfl⟩))
    | null | compare | among => cases hoperator
  | among negated vs =>
    cases b with
    | among negated' ws =>
      cases hoperator
      cases hoperand with
      | list hlength => exact Or.inr (Or.inr (Or.inr ⟨negated, vs, ws, hlength, rfl, rfl⟩))
    | null | compare | range => cases hoperator

theorem isEmpty_eq_of_length {vs ws : List Value} (h : vs.length = ws.length) : vs.isEmpty = ws.isEmpty := by
  rw [Bool.eq_iff_iff, List.isEmpty_iff_length_eq_zero, List.isEmpty_iff_length_eq_zero, h]

/-- The endings of the parameters do not depend on the values. -/
theorem SameShape.endings (h : a.SameShape b) (t : Option Nat) :
    (a.slots t).map (·.1) = (b.slots t).map (·.1) := by
  rcases h.cases with ⟨negated, rfl, rfl⟩ | ⟨comparison, v, w, rfl, rfl⟩ | ⟨negated, v₁, v₂, w₁, w₂, rfl, rfl⟩ |
    ⟨negated, vs, ws, hlength, rfl, rfl⟩
  · rfl
  · rfl
  · rfl
  · simp only [slots, isEmpty_eq_of_length hlength, hlength]
    split
    · rfl
    · split
      · rfl
      · exact List.ext_getElem (by simp [hlength]) fun i h₁ h₂ => by simp

theorem SameShape.atoms_eq (h : a.SameShape b) (setting : Setting) (semantics : NullSemantics) (column : Atom)
    (parameters : List Atom) :
    a.atoms setting semantics column parameters = b.atoms setting semantics column parameters := by
  rcases h.cases with ⟨negated, rfl, rfl⟩ | ⟨comparison, v, w, rfl, rfl⟩ | ⟨negated, v₁, v₂, w₁, w₂, rfl, rfl⟩ |
    ⟨negated, vs, ws, hlength, rfl, rfl⟩
  · rfl
  · rfl
  · rfl
  · simp only [atoms, isEmpty_eq_of_length hlength, hlength]

end Test

/-! ### Conditions -/

/-- Conditions that are equal but for their value, which has the same shape in both. -/
structure Condition.SameShape (a b : Condition) : Prop where
  field : a.field = b.field
  test : a.test.SameShape b.test
  parameter : a.parameter = b.parameter

/-- Named conditions of the same shape, with the same name for their parameters. -/
structure NamedCondition.SameShape (a b : NamedCondition) : Prop where
  condition : a.condition.SameShape b.condition
  name : a.name = b.name

theorem Condition.SameShape.assignName {a b : Condition} (h : a.SameShape b) (t : Option Nat)
    (taken : TakenNames) : (a.assignName t taken).1.SameShape (b.assignName t taken).1 ∧
      (a.assignName t taken).2 = (b.assignName t taken).2 := by
  have hassign : taken.assign (parameterBase (a.parameter.getD a.field.name)) ((a.test.slots t).map (·.1)) =
      taken.assign (parameterBase (b.parameter.getD b.field.name)) ((b.test.slots t).map (·.1)) := by
    rw [h.parameter, h.field, h.test.endings]
  refine ⟨⟨h, ?_⟩, ?_⟩
  · show (taken.assign _ _).1 = (taken.assign _ _).1
    rw [hassign]
  · show (taken.assign _ _).2 = (taken.assign _ _).2
    rw [hassign]

namespace NamedCondition.SameShape
variable {a b : NamedCondition}

theorem parameters_eq (h : a.SameShape b) (t : Option Nat) : a.parameters t = b.parameters t := by
  have hendings : ∀ c : NamedCondition,
      c.parameters t = ((c.condition.test.slots t).map (·.1)).map (c.name ++ ·) := by
    intro c
    rw [parameters, List.map_map]
    rfl
  rw [hendings, hendings, h.name, h.condition.test.endings]

theorem names_bindings (h : a.SameShape b) (t : Option Nat) (lead : String) :
    (a.bindings t lead).map (·.1) = (b.bindings t lead).map (·.1) := by
  rw [NamedCondition.names_bindings, NamedCondition.names_bindings, h.parameters_eq]

theorem atoms_eq (h : a.SameShape b) (setting : Setting) (semantics : NullSemantics) (lead : String) :
    a.atoms setting semantics lead = b.atoms setting semantics lead := by
  have hplaceholders : (a.bindings setting.arrayThreshold lead).map (fun binding => Atom.placeholder binding.1) =
      (b.bindings setting.arrayThreshold lead).map fun binding => Atom.placeholder binding.1 := by
    have hnames := congrArg (List.map Atom.placeholder) (h.names_bindings setting.arrayThreshold lead)
    rwa [List.map_map, List.map_map] at hnames
  show a.condition.test.atoms setting semantics (.name a.condition.field.name)
      ((a.bindings setting.arrayThreshold lead).map fun binding => .placeholder binding.1) =
    b.condition.test.atoms setting semantics (.name b.condition.field.name)
      ((b.bindings setting.arrayThreshold lead).map fun binding => .placeholder binding.1)
  rw [hplaceholders, h.condition.field, h.condition.test.atoms_eq]

end NamedCondition.SameShape

/-! ### Forests -/

namespace Forest

/-- The same groups around leaves that are related one by one. -/
inductive Rel {α β : Type} (r : α → β → Prop) : Forest α → Forest β → Prop
  | nil : Rel r nil nil
  | leaf {a : α} {b : β} {rest : Forest α} {rest' : Forest β} :
    r a b → Rel r rest rest' → Rel r (leaf a rest) (leaf b rest')
  | group (negated : Bool) (connective : Connective) {inner rest : Forest α} {inner' rest' : Forest β} :
    Rel r inner inner' → Rel r rest rest' →
      Rel r (group negated connective inner rest) (group negated connective inner' rest')

namespace Rel
variable {α β γ δ σ : Type} {r : α → β → Prop} {r' : γ → δ → Prop} {x : Forest α} {y : Forest β}

theorem leaves (h : Rel r x y) : List.Forall₂ r x.leaves y.leaves := by
  induction h with
  | nil => exact .nil
  | leaf hab _ ih => exact .cons hab ih
  | group _ _ _ _ ih₁ ih₂ => exact List.rel_append ih₁ ih₂

theorem isBare (h : Rel r x y) : x.isBare = y.isBare := by
  induction h with
  | nil | leaf => rfl
  | group _ _ _ _ ih₁ ih₂ => simp only [Forest.isBare, ih₁, ih₂]

/-- Related leaves with the same state before have related results and the same state behind. -/
theorem mapAccum {f : σ → α → γ × σ} {g : σ → β → δ × σ}
    (hfg : ∀ state a b, r a b → r' (f state a).1 (g state b).1 ∧ (f state a).2 = (g state b).2)
    (h : Rel r x y) (state : σ) :
    Rel r' (x.mapAccum f state).1 (y.mapAccum g state).1 ∧
      (x.mapAccum f state).2 = (y.mapAccum g state).2 := by
  induction h generalizing state with
  | nil => exact ⟨.nil, rfl⟩
  | leaf hab _ ih =>
    obtain ⟨hleaf, hstate⟩ := hfg state _ _ hab
    simp only [Forest.mapAccum, hstate]
    exact ⟨.leaf hleaf (ih _).1, (ih _).2⟩
  | group negated connective _ _ ih₁ ih₂ =>
    obtain ⟨hinner, hstate⟩ := ih₁ state
    simp only [Forest.mapAccum, hstate]
    exact ⟨.group negated connective hinner (ih₂ _).1, (ih₂ _).2⟩

theorem atoms_eq {f : α → List Atom} {g : β → List Atom} (hfg : ∀ a b, r a b → f a = g b) (h : Rel r x y)
    (connective : Connective) (isFirst : Bool) : x.atoms f connective isFirst = y.atoms g connective isFirst := by
  induction h generalizing connective isFirst with
  | nil => rfl
  | leaf hab _ ih => rw [Forest.atoms, Forest.atoms, hfg _ _ hab, ih]
  | group negated inward hinner _ ih₁ ih₂ => rw [Forest.atoms, Forest.atoms, hinner.isBare, ih₁, ih₂, ih₂]

end Rel

end Forest

/-! ### Predicates -/

namespace Predicate

/-- Predicates that are equal but for the values in their conditions, which have the same shape in both. -/
structure SameShape (p q : Predicate) : Prop where
  items : p.items.Rel Condition.SameShape q.items
  connective : p.connective = q.connective
  negated : p.negated = q.negated

namespace SameShape
variable {p q : Predicate}

theorem named (h : p.SameShape q) (t : Option Nat) : (p.named t).Rel NamedCondition.SameShape (q.named t) :=
  (h.items.mapAccum (fun taken _ _ hab => hab.assignName t taken) ∅).1

theorem names_bindings (h : p.SameShape q) (t : Option Nat) (lead : String) :
    (p.bindings t lead).map (·.1) = (q.bindings t lead).map (·.1) := by
  have hparameters : (p.named t).leaves.flatMap (·.parameters t) = (q.named t).leaves.flatMap (·.parameters t) := by
    have hleaves := (h.named t).leaves
    generalize (p.named t).leaves = a at hleaves ⊢
    generalize (q.named t).leaves = b at hleaves ⊢
    induction hleaves with
    | nil => rfl
    | cons hab _ ih => rw [List.flatMap_cons, List.flatMap_cons, hab.parameters_eq, ih]
  rw [Predicate.names_bindings, Predicate.names_bindings, hparameters]

theorem atoms?_eq (h : p.SameShape q) (setting : Setting) (semantics : NullSemantics) (lead : String) :
    p.atoms? setting semantics lead = q.atoms? setting semantics lead := by
  have hempty : p.isEmpty = q.isEmpty := h.items.isBare
  have hitems : (p.named setting.arrayThreshold).atoms (·.atoms setting semantics lead) p.connective true =
      (q.named setting.arrayThreshold).atoms (·.atoms setting semantics lead) q.connective true := by
    rw [h.connective]
    exact (h.named _).atoms_eq (fun _ _ hab => hab.atoms_eq setting semantics lead) _ _
  rw [atoms?, atoms?, hempty, hitems, h.negated]

end SameShape

end Predicate

end CrudSql

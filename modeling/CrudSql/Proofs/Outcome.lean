import Mathlib.Data.List.Forall2
import CrudSql.Trace

/-! What a computation went through that was not refused: every step gave a result, and no guard threw. -/

namespace CrudSql

section Outcome
variable {α β ε : Type} {a : α} {b : β} {fault : ε}

@[simp] theorem bind_eq_ok {x : Except ε α} {f : α → Except ε β} :
    (x >>= f) = .ok b ↔ ∃ a, x = .ok a ∧ f a = .ok b := by
  cases x <;> simp [bind, Except.bind]

@[simp] theorem pure_eq_ok {a' : α} : (pure a : Except ε α) = .ok a' ↔ a = a' := by
  simp [pure, Except.pure]

@[simp] theorem throw_bind {f : α → Except ε β} : (throw fault >>= f) = throw fault := rfl

/-- A guard that throws under its condition. -/
@[simp] theorem ite_throw_eq_ok {p : Prop} [Decidable p] {x : Except ε β} :
    (if p then throw fault else x) = .ok b ↔ ¬p ∧ x = .ok b := by
  by_cases hp : p <;> simp [hp, throw, throwThe, MonadExceptOf.throw]

@[simp] theorem exists_unit_eq_ok {x : Except ε Unit} {p : Prop} :
    (∃ u, x = .ok u ∧ p) ↔ x = .ok () ∧ p := by
  constructor
  · rintro ⟨⟨⟩, h⟩
    exact h
  · exact fun h => ⟨(), h⟩

/-- Whether there is an outcome that meets a condition is known from the outcome. -/
instance decidableExistsOk {x : Except ε α} {p : α → Prop} [DecidablePred p] : Decidable (∃ a, x = .ok a ∧ p a) :=
  match x with
  | .ok a => decidable_of_iff (p a) (by simp)
  | .error _ => isFalse (by simp)

/-- A check of every member passes exactly if it passes for each. -/
theorem forM_eq_ok_iff {f : α → Except ε Unit} {l : List α} : l.forM f = .ok () ↔ ∀ a ∈ l, f a = .ok () := by
  induction l with
  | nil => exact iff_of_true rfl (by simp)
  | cons a l ih =>
    show (f a >>= fun _ => l.forM f) = .ok () ↔ _
    rw [bind_eq_ok, exists_unit_eq_ok, ih, List.forall_mem_cons]

/-- Checks of two lists whose members pass or fail alike. -/
theorem forM_congr {f : α → Except ε Unit} {g : β → Except ε Unit} {l : List α} {l' : List β}
    (h : List.Forall₂ (fun a b => f a = g b) l l') : l.forM f = l'.forM g := by
  induction h with
  | nil => rfl
  | @cons a b l l' hab _ ih =>
    show (f a >>= fun _ => l.forM f) = (g b >>= fun _ => l'.forM g)
    rw [hab, ih]

/-- The members of a mapped list are the results for those of the list, one by one. -/
theorem mapM_eq_ok_iff {f : α → Except ε β} {l : List α} {l' : List β} :
    l.mapM f = .ok l' ↔ List.Forall₂ (fun a b => f a = .ok b) l l' := by
  induction l generalizing l' with
  | nil =>
    rw [List.mapM_nil, pure_eq_ok, List.forall₂_nil_left_iff]
    exact eq_comm
  | cons a l ih =>
    simp only [List.mapM_cons, bind_eq_ok, pure_eq_ok, ih, List.forall₂_cons_left_iff]
    constructor
    · rintro ⟨first, hfirst, rest, hrest, rfl⟩
      exact ⟨first, rest, hfirst, hrest, rfl⟩
    · rintro ⟨first, rest, hfirst, hrest, rfl⟩
      exact ⟨first, hfirst, rest, hrest, rfl⟩

/-- A list is mapped if every member has a result. -/
theorem exists_mapM_iff {f : α → Except ε β} {l : List α} :
    (∃ l', l.mapM f = .ok l') ↔ ∀ a ∈ l, ∃ b, f a = .ok b := by
  simp only [mapM_eq_ok_iff]
  induction l with
  | nil => simp
  | cons a l ih =>
    rw [List.forall_mem_cons, ← ih]
    simp only [List.forall₂_cons_left_iff]
    constructor
    · rintro ⟨l', first, rest, hfirst, hrest, -⟩
      exact ⟨⟨first, hfirst⟩, rest, hrest⟩
    · rintro ⟨⟨first, hfirst⟩, rest, hrest⟩
      exact ⟨first :: rest, first, rest, hfirst, hrest, rfl⟩

/-- In two lists that go together, every member of the second has one of the first beside it. -/
theorem exists_of_forall₂ {r : α → β → Prop} {l : List α} {l' : List β} (h : List.Forall₂ r l l') :
    ∀ b ∈ l', ∃ a ∈ l, r a b := by
  induction h with
  | nil => exact List.forall_mem_nil _
  | cons hfirst _ ih =>
    refine List.forall_mem_cons.mpr ⟨⟨_, List.mem_cons_self, hfirst⟩, fun b hb => ?_⟩
    obtain ⟨a, ha, hab⟩ := ih b hb
    exact ⟨a, List.mem_cons_of_mem _ ha, hab⟩

/-- Every member of a mapped list is the result for a member of the list. -/
theorem exists_of_mem_mapM {f : α → Except ε β} {l : List α} {l' : List β} (h : l.mapM f = .ok l') :
    ∀ b ∈ l', ∃ a ∈ l, f a = .ok b :=
  exists_of_forall₂ (mapM_eq_ok_iff.mp h)

/-- Every member of a list has its result in the mapped list. -/
theorem exists_mem_of_mapM {f : α → Except ε β} {l : List α} {l' : List β} (h : l.mapM f = .ok l') :
    ∀ a ∈ l, ∃ b ∈ l', f a = .ok b :=
  exists_of_forall₂ (r := fun b a => f a = .ok b) (.flip (mapM_eq_ok_iff.mp h))

end Outcome

/-- The same refusal, or results that are related. -/
inductive SameOutcome {α β ε : Type} (r : α → β → Prop) : Except ε α → Except ε β → Prop
  | error (fault : ε) : SameOutcome r (.error fault) (.error fault)
  | ok {a : α} {b : β} (h : r a b) : SameOutcome r (.ok a) (.ok b)

namespace SameOutcome
variable {α β γ δ ε : Type} {r : α → β → Prop} {r' : γ → δ → Prop} {x : Except ε α} {y : Except ε β}

theorem of_eq {x y : Except ε α} (h : x = y) : SameOutcome Eq x y := by
  subst h
  cases x with
  | error fault => exact .error fault
  | ok a => exact .ok rfl

theorem bind {f : α → Except ε γ} {g : β → Except ε δ} (h : SameOutcome r x y)
    (hfg : ∀ a b, r a b → SameOutcome r' (f a) (g b)) : SameOutcome r' (x >>= f) (y >>= g) := by
  cases h with
  | error fault => exact .error fault
  | ok hab => exact hfg _ _ hab

/-- One computation goes on in two ways. -/
theorem bind_left {z : Except ε α} {f : α → Except ε γ} {g : α → Except ε δ}
    (h : ∀ a, SameOutcome r' (f a) (g a)) : SameOutcome r' (z >>= f) (z >>= g) :=
  (of_eq rfl).bind fun a _ hab => hab ▸ h a

/-- A guard that throws in both. -/
theorem ite_throw {p : Prop} [Decidable p] {fault : ε} (h : SameOutcome r x y) :
    SameOutcome r (if p then throw fault else x) (if p then throw fault else y) := by
  split
  · exact .error fault
  · exact h

end SameOutcome

namespace Trace
variable {α β : Type} {trace : Trace α} {next : α → Trace β} {fault : Fault}

@[simp] theorem outcome_bind : (trace >>= next).outcome = (do (next (← trace.outcome)).outcome) :=
  outcome_andThen trace next

@[simp] theorem outcome_pure (a : α) : (pure a : Trace α).outcome = pure a := rfl

@[simp] theorem outcome_throw : (throw fault : Trace α).outcome = throw fault := rfl

@[simp] theorem outcome_lift (outcome : Except Fault α) : (liftM outcome : Trace α).outcome = outcome := rfl

@[simp] theorem outcome_emit (event : Event) : (emit event).outcome = .ok () := rfl

@[simp] theorem outcome_ite {p : Prop} [Decidable p] {a b : Trace α} :
    (if p then a else b).outcome = if p then a.outcome else b.outcome :=
  apply_ite ..

end Trace

end CrudSql

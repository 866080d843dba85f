import CrudSql.Predicate.Text
import CrudSql.Proofs.Predicate.Names

/-! What a predicate says, apart from how it was put together. Groups without conditions are left out, a
    group with one child has no connective of its own, given names of parameters do not count, and a list
    without values makes a test that always has the same answer. -/

namespace CrudSql

namespace Forest
variable {α β γ σ : Type} {forest : Forest α} {state : σ}

/-- The forest with other leaves at the same places. -/
def map (f : α → β) : Forest α → Forest β
  | nil => nil
  | leaf value rest => leaf (f value) (rest.map f)
  | group negated connective inner rest => group negated connective (inner.map f) (rest.map f)

/-- Without the groups that have no leaf. -/
def pruned : Forest α → Forest α
  | nil => nil
  | leaf value rest => leaf value rest.pruned
  | group negated connective inner rest =>
    if inner.isBare then rest.pruned else group negated connective inner.pruned rest.pruned

/-- Without the connectives of groups with one child. -/
def settled : Forest α → Forest α
  | nil => nil
  | leaf value rest => leaf value rest.settled
  | group negated connective inner rest =>
    group negated (if inner.width = 1 then .and else connective) inner.settled rest.settled

/-- Every group has a leaf. -/
def IsPruned : Forest α → Prop
  | nil => True
  | leaf _ rest => rest.IsPruned
  | group _ _ inner rest => inner.isBare = false ∧ inner.IsPruned ∧ rest.IsPruned

/-! ### Maps -/

theorem isBare_map (f : α → β) (forest : Forest α) : (forest.map f).isBare = forest.isBare := by
  induction forest with
  | nil => rfl
  | leaf => rfl
  | group negated connective inner rest ihi ihr => simp only [map, isBare, ihi, ihr]

theorem width_map (f : α → β) (forest : Forest α) : (forest.map f).width = forest.width := by
  induction forest with
  | nil => rfl
  | leaf value rest ih => simp only [map, width, ih]
  | group negated connective inner rest _ ih => simp only [map, width, ih]

theorem pruned_map (f : α → β) (forest : Forest α) : (forest.map f).pruned = forest.pruned.map f := by
  induction forest with
  | nil => rfl
  | leaf value rest ih => simp only [map, pruned, ih]
  | group negated connective inner rest ihi ihr =>
    rw [map, pruned, pruned, isBare_map]
    split
    · exact ihr
    · rw [map, ihi, ihr]

/-- What a pass with a state keeps of every leaf is there as in a map. -/
theorem map_mapAccum {f : σ → α → β × σ} {g : β → γ} {h : α → γ} (hf : ∀ s x, g (f s x).1 = h x)
    (state : σ) (forest : Forest α) : (forest.mapAccum f state).1.map g = forest.map h := by
  induction forest generalizing state with
  | nil => rfl
  | leaf value rest ih => simp only [mapAccum, map, hf, ih]
  | group negated connective inner rest ihi ihr => simp only [mapAccum, map, ihi, ihr]

/-! ### Groups without leaves -/

theorem isBare_pruned (forest : Forest α) : forest.pruned.isBare = forest.isBare := by
  induction forest with
  | nil => rfl
  | leaf => rfl
  | group negated connective inner rest ihi ihr =>
    rw [pruned, isBare]
    split
    · rename_i hbare
      rw [ihr, hbare, Bool.true_and]
    · rw [isBare, ihi, ihr]

theorem isPruned_pruned (forest : Forest α) : forest.pruned.IsPruned := by
  induction forest with
  | nil => trivial
  | leaf value rest ih => exact ih
  | group negated connective inner rest ihi ihr =>
    rw [pruned]
    split
    · exact ihr
    · rename_i hbare
      exact ⟨(isBare_pruned inner).trans (Bool.eq_false_iff.mpr hbare), ihi, ihr⟩

theorem leaves_pruned (forest : Forest α) : forest.pruned.leaves = forest.leaves := by
  induction forest with
  | nil => rfl
  | leaf value rest ih => rw [pruned, leaves, leaves, ih]
  | group negated connective inner rest ihi ihr =>
    rw [pruned, leaves]
    split
    · rename_i hbare
      rw [ihr, isBare_iff.mp hbare, List.nil_append]
    · rw [leaves, ihi, ihr]

theorem atoms_pruned (leafAtoms : α → List Atom) (connective : Connective) (isFirst : Bool)
    (forest : Forest α) :
    forest.pruned.atoms leafAtoms connective isFirst = forest.atoms leafAtoms connective isFirst := by
  induction forest generalizing connective isFirst with
  | nil => rfl
  | leaf value rest ih => rw [pruned, atoms, atoms, ih]
  | group negated inward inner rest ihi ihr =>
    rw [pruned, atoms]
    split
    · exact ihr connective isFirst
    · rename_i hbare
      rw [atoms, isBare_pruned, if_neg hbare, ihi, ihr]

/-- A pass over no leaves leaves the state. -/
theorem mapAccum_snd_of_isBare {f : σ → α → β × σ} (h : forest.isBare = true) :
    (forest.mapAccum f state).2 = state := by
  induction forest generalizing state with
  | nil => rfl
  | leaf => cases h
  | group negated connective inner rest ihi ihr =>
    rw [isBare, Bool.and_eq_true] at h
    simp only [mapAccum, ihr h.2, ihi h.1]

theorem mapAccum_pruned (f : σ → α → β × σ) (state : σ) (forest : Forest α) :
    forest.pruned.mapAccum f state = ((forest.mapAccum f state).1.pruned, (forest.mapAccum f state).2) := by
  induction forest generalizing state with
  | nil => rfl
  | leaf value rest ih => simp only [pruned, mapAccum, ih]
  | group negated connective inner rest ihi ihr =>
    by_cases hbare : inner.isBare = true
    · rw [pruned, if_pos hbare, ihr]
      simp only [mapAccum, pruned, isBare_mapAccum, hbare, if_true, mapAccum_snd_of_isBare hbare]
    · rw [pruned, if_neg hbare]
      simp only [mapAccum, ihi, ihr, pruned, isBare_mapAccum, hbare, if_false, Bool.false_eq_true]

end Forest

/-- What a condition says of a row: always the same, or what a test finds in a column. -/
inductive Meaning where
  | constant (holds : Bool)
  | tested (column : String) (test : Test)

/-- No value is among none. -/
def Condition.meaning (condition : Condition) : Meaning :=
  match condition.test with
  | .among negated [] => .constant negated
  | test => .tested condition.field.name test

namespace Predicate
variable {setting : Setting} {semantics : NullSemantics} {lead : String}

/-- The predicate as the only group of a forest. -/
def root (predicate : Predicate) : Forest Condition :=
  .group predicate.negated predicate.connective predicate.items .nil

/-- The predicate as the only group of a forest, with its conditions named. -/
def namedRoot (t : Option Nat) (predicate : Predicate) : Forest NamedCondition :=
  .group predicate.negated predicate.connective (predicate.named t) .nil

/-- What the predicate says. -/
def canonical (predicate : Predicate) : Forest Meaning :=
  (predicate.root.map Condition.meaning).pruned.settled

/-- The predicate without its groups that have no condition. -/
def pruned (predicate : Predicate) : Predicate := { predicate with items := predicate.items.pruned }

theorem named_pruned (t : Option Nat) (predicate : Predicate) :
    predicate.pruned.named t = (predicate.named t).pruned :=
  congrArg Prod.fst (Forest.mapAccum_pruned (Condition.assignName t) ∅ predicate.items)

theorem bindings_pruned (t : Option Nat) (lead : String) (predicate : Predicate) :
    predicate.pruned.bindings t lead = predicate.bindings t lead := by
  rw [bindings, named_pruned, Forest.leaves_pruned, bindings]

theorem text?_pruned (predicate : Predicate) :
    predicate.pruned.text? setting semantics lead = predicate.text? setting semantics lead := by
  have hempty : predicate.pruned.isEmpty = predicate.isEmpty := Forest.isBare_pruned predicate.items
  rw [text?, text?, atoms?, atoms?, named_pruned, Forest.atoms_pruned, hempty]
  rfl

/-- The conditions of the predicate are named, and say what they said. -/
theorem map_named (t : Option Nat) (predicate : Predicate) :
    (predicate.named t).map (fun named => named.condition.meaning) = predicate.items.map Condition.meaning :=
  Forest.map_mapAccum (f := Condition.assignName t) (fun _ _ => rfl) ∅ predicate.items

theorem leaves_namedRoot (t : Option Nat) (predicate : Predicate) :
    (predicate.namedRoot t).leaves = (predicate.named t).leaves := List.append_nil _

/-- A predicate is written as a group among others is. -/
theorem atoms?_eq_namedRoot (predicate : Predicate) : predicate.atoms? setting semantics lead =
    if predicate.isEmpty then none
    else some ((predicate.namedRoot setting.arrayThreshold).atoms (·.atoms setting semantics lead) .and true) := by
  rw [atoms?]
  split
  · rfl
  · rename_i hempty
    have hbare : (predicate.named setting.arrayThreshold).isBare = false :=
      (predicate.isBare_named _).trans (Bool.eq_false_iff.mpr hempty)
    simp [namedRoot, Forest.atoms, hbare]

end Predicate

end CrudSql

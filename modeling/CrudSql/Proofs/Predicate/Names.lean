import Mathlib.Data.List.Nodup
import CrudSql.Predicate
import CrudSql.Proofs.ParameterName

/-! The names of a predicate's parameters. Conditions are named from left to right; each takes the keys
    of its parameters, which were free and differ from each other, so no two parameters of a predicate
    have the same name but for case. -/

namespace CrudSql
open Text TakenNames

/-! ### Leaves -/

namespace Forest
variable {α β σ : Type} {f : σ → α → β × σ} {state : σ} {forest : Forest α}

theorem isBare_mapAccum : (forest.mapAccum f state).1.isBare = forest.isBare := by
  induction forest generalizing state with
  | nil | leaf => rfl
  | group negated connective inner rest ihi ihr => simp only [mapAccum, isBare, ihi, ihr]

end Forest

/-! ### Parameters of a condition -/

namespace Test
variable {t : Option Nat} {test : Test}

theorem lower_in_injective {name : String} {m n : Nat}
    (h : lower (name ++ s!"_In_{m}") = lower (name ++ s!"_In_{n}")) : m = n := by
  obtain ⟨base, hbase⟩ : ∃ base, base = name ++ "_In" := ⟨_, rfl⟩
  have hassoc : ∀ k : Nat, name ++ s!"_In_{k}" = s!"{base}_{k}" ++ "" := by
    intro k
    show name ++ ("_In_" ++ toString k) = base ++ "_" ++ toString k ++ ""
    apply String.toList_injective
    simp [hbase]
  rw [hassoc, hassoc] at h
  exact lower_numbered_injective h

/-- The parameters of one condition differ by their endings. -/
theorem nodup_keys_slots (name : String) : (keys name ((test.slots t).map (·.1))).Nodup := by
  have hlr : lower (name ++ "_Left") ≠ lower (name ++ "_Right") := by
    intro h
    have h := congrArg (·.toList.length) h
    simp only [toList_lower, String.toList_append, length_lowerChars_append] at h
    have hlen : (lowerChars "_Left".toList).length ≠ (lowerChars "_Right".toList).length := by
      decide +kernel
    omega
  cases test with
  | null | compare => simp [slots, keys]
  | range => simpa [slots, keys] using hlr
  | among _ values =>
    rw [slots]
    split
    · exact .nil
    · split
      · exact List.nodup_singleton _
      · refine List.pairwise_iff_getElem.mpr fun i j hi hj hij heq => hij.ne ?_
        simp only [keys, List.getElem_map, List.getElem_mapIdx] at heq
        exact lower_in_injective heq

theorem isParameterChar_slot {slot : String × Value} (h : slot ∈ test.slots t) :
    ∀ c ∈ slot.1.toList, isParameterChar c = true := by
  have hfixed : ∀ ending ∈ ["", "_Left", "_Right", "_In"],
      ∀ c ∈ ending.toList, isParameterChar c = true := by
    simp only [← List.all_eq_true]
    decide
  cases test with
  | null => cases h
  | compare =>
    cases List.mem_singleton.mp h
    exact hfixed _ (by simp)
  | range =>
    simp only [slots, List.mem_cons, List.not_mem_nil, or_false] at h
    rcases h with rfl | rfl <;> exact hfixed _ (by simp)
  | among _ values =>
    rw [slots] at h
    split at h
    · cases h
    · split at h
      · cases List.mem_singleton.mp h
        exact hfixed _ (by simp)
      · obtain ⟨i, hi, rfl⟩ := List.mem_mapIdx.mp h
        exact isParameterChar_numbered (hfixed "_In" (by simp)) i

end Test

/-! ### Naming the conditions -/

namespace NamedCondition

/-- The parameters of the condition, without any text before them. -/
def parameters (t : Option Nat) (named : NamedCondition) : List String :=
  (named.condition.test.slots t).map fun slot => named.name ++ slot.1

theorem names_bindings (t : Option Nat) (lead : String) (named : NamedCondition) :
    (named.bindings t lead).map (·.1) = (named.parameters t).map (lead ++ ·) := by
  simp [bindings, parameters, Function.comp_def, String.append_assoc]

theorem lower_parameters (t : Option Nat) (named : NamedCondition) :
    (named.parameters t).map lower = keys named.name ((named.condition.test.slots t).map (·.1)) := by
  simp [parameters, keys, Function.comp_def]

end NamedCondition

/-- Conditions named one after the other. -/
structure Named (t : Option Nat) (before after : TakenNames) (named : List NamedCondition) : Prop where
  nodup : ((named.flatMap (·.parameters t)).map lower).Nodup
  fresh : ∀ key ∈ (named.flatMap (·.parameters t)).map lower, key ∉ before
  taken : ∀ key, key ∈ after ↔ key ∈ before ∨ key ∈ (named.flatMap (·.parameters t)).map lower
  characters : ∀ condition ∈ named, ∀ c ∈ condition.name.toList, isParameterChar c = true

namespace Named
variable {t : Option Nat} {before between after : TakenNames} {a b : List NamedCondition}

theorem nil : Named t before before [] := ⟨by simp, by simp, by simp, by simp⟩

theorem append (ha : Named t before between a) (hb : Named t between after b) :
    Named t before after (a ++ b) where
  nodup := by
    rw [List.flatMap_append, List.map_append]
    refine ha.nodup.append hb.nodup fun key hka hkb => hb.fresh key hkb ?_
    exact (ha.taken key).mpr (Or.inr hka)
  fresh := by
    intro key hkey hbefore
    rw [List.flatMap_append, List.map_append, List.mem_append] at hkey
    rcases hkey with hkey | hkey
    · exact ha.fresh key hkey hbefore
    · exact hb.fresh key hkey ((ha.taken key).mpr (Or.inl hbefore))
  taken := by
    intro key
    rw [hb.taken, ha.taken, List.flatMap_append, List.map_append, List.mem_append, or_assoc]
  characters condition hc := (List.mem_append.mp hc).elim (ha.characters condition) (hb.characters condition)

end Named

theorem Condition.named_assignName (t : Option Nat) (taken : TakenNames) (condition : Condition) :
    Named t taken (condition.assignName t taken).2 [(condition.assignName t taken).1] := by
  obtain ⟨n, hname, hfree, -, htaken⟩ := taken.assign_spec
    (parameterBase (condition.parameter.getD condition.field.name))
    ((condition.test.slots t).map (·.1))
  have hkeys : (([(condition.assignName t taken).1].flatMap (·.parameters t)).map lower) =
      keys (TakenNames.candidate (parameterBase (condition.parameter.getD condition.field.name)) n)
        ((condition.test.slots t).map (·.1)) := by
    rw [List.flatMap_singleton, NamedCondition.lower_parameters, ← hname]
    rfl
  refine ⟨?_, ?_, ?_, ?_⟩
  · rw [hkeys]
    exact Test.nodup_keys_slots _
  · rw [hkeys]
    exact hfree
  · rw [hkeys]
    exact htaken
  · intro named hnamed
    cases List.mem_singleton.mp hnamed
    show ∀ c ∈ (TakenNames.assign taken _ _).1.toList, _
    rw [hname]
    exact isParameterChar_candidate (isParameterChar_parameterBase _) n

/-- The conditions of a forest are named from left to right. -/
theorem Forest.named_mapAccum (t : Option Nat) (taken : TakenNames) (forest : Forest Condition) :
    Named t taken (forest.mapAccum (Condition.assignName t) taken).2
      (forest.mapAccum (Condition.assignName t) taken).1.leaves := by
  induction forest generalizing taken with
  | nil => exact .nil
  | leaf condition rest ih => exact (condition.named_assignName t taken).append (ih _)
  | group negated connective inner rest ihi ihr => exact (ihi taken).append (ihr _)

namespace Predicate
variable (t : Option Nat) (predicate : Predicate)

theorem named_leaves : ∃ after, Named t ∅ after (predicate.named t).leaves :=
  ⟨_, predicate.items.named_mapAccum t ∅⟩

theorem isBare_named : (predicate.named t).isBare = predicate.isEmpty := Forest.isBare_mapAccum

theorem names_bindings (lead : String) : (predicate.bindings t lead).map (·.1) =
    ((predicate.named t).leaves.flatMap (·.parameters t)).map (lead ++ ·) := by
  simp only [bindings, List.map_flatMap, NamedCondition.names_bindings]

/-- No two conditions of a predicate take the same key. -/
theorem nodup_keys : (((predicate.named t).leaves.flatMap (·.parameters t)).map lower).Nodup := by
  obtain ⟨after, h⟩ := predicate.named_leaves t
  exact h.nodup

/-- No two parameters of a predicate have the same name. -/
theorem nodup_names (lead : String) : ((predicate.bindings t lead).map (·.1)).Nodup := by
  have hnames := (predicate.nodup_keys t).of_map
  rw [names_bindings]
  exact hnames.map fun a b hab => by
    have := congrArg String.toList hab
    simpa [String.toList_inj] using this

/-- No two parameters of a filter differ only by case, whatever the fields and the given names of its
    conditions spell. A text before the names is left out: behind a letter, a sigma that ends a name
    may turn into another one's. -/
theorem nodup_lower_names (setting : Setting) (predicate : Predicate) :
    ((predicate.bindings setting.arrayThreshold "").map fun binding => lower binding.1).Nodup := by
  have hnames : (predicate.bindings setting.arrayThreshold "").map (·.1) =
      (predicate.named setting.arrayThreshold).leaves.flatMap (·.parameters setting.arrayThreshold) := by
    rw [names_bindings]
    simp
  have hkeys := predicate.nodup_keys setting.arrayThreshold
  rwa [← hnames, List.map_map] at hkeys

theorem bindings_eq_nil (lead : String) (h : predicate.conditions = []) : predicate.bindings t lead = [] := by
  have hbare : (predicate.named t).isBare = true := by
    rw [isBare_named, isEmpty, Forest.isBare_iff]
    exact h
  rw [bindings, Forest.isBare_iff.mp hbare]
  rfl

/-- A condition by itself has the name of its base, as no name is taken. -/
theorem bindings_ofCondition (lead : String) (condition : Condition) :
    (ofCondition condition).bindings t lead = (condition.test.slots t).map fun (ending, value) =>
      (lead ++ parameterBase (condition.parameter.getD condition.field.name) ++ ending, value) := by
  simp only [ofCondition, bindings, named, Forest.mapAccum, Forest.leaves, List.flatMap_singleton,
    Condition.assignName, NamedCondition.bindings, TakenNames.assign_empty]

end Predicate

/-- The bindings of a filter, if there is one. -/
def filterBindings (t : Option Nat) (lead : String) (filter : Option Predicate) : List (String × Value) :=
  filter.elim [] (·.bindings t lead)

end CrudSql

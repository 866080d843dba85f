import Mathlib.Data.List.Nodup
import CrudSql.Plan.Check
import CrudSql.Proofs.Field
import CrudSql.Proofs.Outcome
import CrudSql.Proofs.ParameterName
import CrudSql.Proofs.Predicate.Names

/-! What the checks of a request establish. The check of names goes through the rows of a batch and keeps
    for every key the field that had it first; it passes if no key comes twice. -/

namespace CrudSql

/-- Every list of values in the predicate, at any depth, stays within a limit that is set. -/
def Predicate.ListsWithin (limit : Option Nat) (predicate : Predicate) : Prop :=
  ∀ most ∈ limit, ∀ condition ∈ predicate.conditions, ∀ negated values,
    condition.test = .among negated values → values.length ≤ most

namespace Check
open Text

theorem rows_eq_ok_iff {count : Nat} : rows count = .ok () ↔ count ≠ 0 := by
  unfold rows
  split <;> simp_all

theorem parameterLimit_eq_ok_iff {setting : Setting} {perRow rows : Nat} :
    parameterLimit setting perRow rows = .ok () ↔ min (perRow * rows) maxCount ≤ setting.maxParameters := by
  simp only [parameterLimit]
  split
  · rename_i h
    simpa using h
  · rename_i h
    exact iff_of_true rfl (Nat.le_of_not_lt h)

theorem parameterLimit_of_le {setting : Setting} {perRow m n : Nat} (hmn : m ≤ n)
    (h : parameterLimit setting perRow n = .ok ()) : parameterLimit setting perRow m = .ok () := by
  rw [parameterLimit_eq_ok_iff] at h ⊢
  exact (min_le_min_right maxCount (Nat.mul_le_mul_left perRow hmn)).trans h

/-! ### Filters -/

section Filters
variable {setting : Setting} {lead : String} {extra : Nat} {bindings : List (String × Value)}

theorem listLimit_eq_ok_iff {predicate : Predicate} :
    listLimit setting predicate = .ok () ↔ predicate.ListsWithin setting.maxListLength := by
  unfold listLimit Predicate.ListsWithin
  cases setting.maxListLength with
  | none => simp
  | some most =>
    simp only [Option.mem_some_iff, forall_eq', forM_eq_ok_iff]
    refine forall_congr' fun condition => imp_congr_right fun _ => ?_
    cases htest : condition.test with
    | among negated values =>
      by_cases hlong : most < values.length
      · simp only [if_pos hlong, reduceCtorEq, false_iff]
        exact fun h => absurd (h negated values rfl) (by omega)
      · simp only [if_neg hlong, true_iff]
        rintro _ _ ⟨⟩
        omega
    | null | compare | range => simp

/-- A filter that is given passes with all its bindings, if its lists and the number of parameters stay
    within the limits. Nothing is checked where none is given. -/
theorem filter_eq_ok_iff {predicate : Option Predicate} : filter setting lead extra predicate = .ok bindings ↔
    bindings = filterBindings setting.arrayThreshold lead predicate ∧
      ∀ given ∈ predicate, given.ListsWithin setting.maxListLength ∧
        min (bindings.length + extra) maxCount ≤ setting.maxParameters := by
  cases predicate with
  | none => simp [filter, filterBindings, eq_comm]
  | some given =>
    simp only [filter, bind_eq_ok, exists_unit_eq_ok, pure_eq_ok, listLimit_eq_ok_iff, parameterLimit_eq_ok_iff,
      filterBindings, Option.elim_some, Option.mem_some_iff, forall_eq', Nat.mul_one]
    constructor
    · rintro ⟨hlists, hcount, rfl⟩
      exact ⟨rfl, hlists, hcount⟩
    · rintro ⟨rfl, hlists, hcount⟩
      exact ⟨hlists, hcount, rfl⟩

end Filters

/-! ### Names -/

/-- A field in a row of a batch. -/
abbrev Place := Nat × Field

/-- The parameter of a field in a row as it is compared. -/
def key (setting : Setting) (place : Place) : String :=
  lower (String.ofList [setting.parameterMark] ++ rowParameter place.2.name place.1)

/-- The fields in the rows of a batch, row by row. -/
def places (fields : List Field) (rows : Nat) : List Place :=
  (List.range rows).flatMap fun row => fields.map fun field => (row, field)

/-- The owners know of every key seen the field that had it first. -/
def Owned (setting : Setting) (owners : Owners) (seen : List Place) : Prop :=
  ∀ k, owners[k]? = (seen.find? fun place => key setting place == k).map (·.2.name)

/-- Fields that count as the same do not have the same key at two places. -/
def Unshared (setting : Setting) (places : List Place) : Prop :=
  places.Pairwise fun earlier later =>
    later.2.hasName earlier.2.name = true → key setting earlier ≠ key setting later

section Names
variable {setting : Setting} {owners : Owners} {seen rest : List Place} {place : Place} {set : FieldSet}

/-- A key that was not seen gets an owner. -/
theorem Owned.claim_fresh (h : Owned setting owners seen) (hk : key setting place ∉ seen.map (key setting)) :
    ∃ owners', claim setting place.1 owners place.2 = .ok owners' ∧
      Owned setting owners' (seen ++ [place]) := by
  have hnone : seen.find? (fun p => key setting p == key setting place) = none := by
    refine List.find?_eq_none.mpr fun p hp hpk => hk ?_
    exact List.mem_map.mpr ⟨p, hp, beq_iff_eq.mp hpk⟩
  have hfree : owners[key setting place]? = none := by
    rw [h, hnone]
    rfl
  refine ⟨owners.insert (key setting place) place.2.name, ?_, fun k => ?_⟩
  · simp only [claim]
    rw [show owners[lower _]? = none from hfree]
    rfl
  · rw [Std.HashMap.getElem?_insert, h, List.find?_append]
    by_cases heq : key setting place = k
    · subst heq
      simp [hnone]
    · simp [heq]

/-- A key that another field has already is refused. -/
theorem Owned.claim_taken (h : Owned setting owners seen) (hk : key setting place ∈ seen.map (key setting))
    (hother : ∀ p ∈ seen, key setting p = key setting place → place.2.hasName p.2.name = false)
    (owners' : Owners) : claim setting place.1 owners place.2 ≠ .ok owners' := by
  obtain ⟨p, hp, hpk⟩ := List.mem_map.mp hk
  obtain ⟨first, hfirst⟩ := Option.isSome_iff_exists.mp
    (List.find?_isSome.mpr ⟨p, hp, beq_iff_eq.mpr hpk⟩ :
      (seen.find? fun p => key setting p == key setting place).isSome)
  have howner : owners[key setting place]? = some first.2.name := by
    rw [h, hfirst]
    rfl
  have hdiffers := hother first (List.mem_of_find?_eq_some hfirst)
    (by simpa using List.find?_some hfirst)
  simp only [claim]
  rw [show owners[lower _]? = _ from howner]
  simp [hdiffers]

/-- From owners of the places seen, the rest passes if no key comes twice. -/
theorem Owned.foldlM_ok_iff (h : Owned setting owners seen) (hu : Unshared setting (seen ++ rest))
    (hs : (seen.map (key setting)).Nodup) :
    (∃ owners', rest.foldlM (fun owners place => claim setting place.1 owners place.2) owners =
      .ok owners') ↔ ((seen ++ rest).map (key setting)).Nodup := by
  induction rest generalizing owners seen with
  | nil => simpa using hs
  | cons place rest ih =>
    by_cases hk : key setting place ∈ seen.map (key setting)
    · have hother : ∀ p ∈ seen, key setting p = key setting place → place.2.hasName p.2.name = false := by
        intro p hp hpk
        have := (List.pairwise_append.mp hu).2.2 p hp place List.mem_cons_self
        exact Bool.eq_false_iff.mpr fun hname => this hname hpk
      constructor
      · rintro ⟨owners', hfold⟩
        simp only [List.foldlM_cons, bind_eq_ok] at hfold
        obtain ⟨claimed, hclaim, -⟩ := hfold
        exact absurd hclaim (h.claim_taken hk hother claimed)
      · intro hnodup
        rw [List.map_append, List.map_cons, List.nodup_append] at hnodup
        exact absurd rfl (hnodup.2.2 _ hk _ List.mem_cons_self)
    · obtain ⟨claimed, hclaim, howned⟩ := h.claim_fresh hk
      have hseen : ((seen ++ [place]).map (key setting)).Nodup := by
        rw [List.map_append, List.map_singleton, ← List.concat_eq_append]
        exact hs.concat hk
      have happend : seen ++ place :: rest = seen ++ [place] ++ rest := by simp
      rw [happend] at hu ⊢
      rw [← ih howned hu hseen]
      simp only [List.foldlM_cons, bind_eq_ok, hclaim, Except.ok.injEq, exists_eq_left']

theorem foldlM_places (rows : Nat) (fields : List Field) (owners : Owners) :
    (List.range rows).foldlM (fun owners row => fields.foldlM (claim setting row) owners) owners =
      (places fields rows).foldlM (fun owners place => claim setting place.1 owners place.2) owners := by
  rw [places]
  generalize List.range rows = l
  induction l generalizing owners with
  | nil => rfl
  | cons row l ih =>
    simp only [List.foldlM_cons, List.flatMap_cons, List.foldlM_append, List.foldlM_map, ih]

/-- The names of the first rows are checked before those of the others. -/
theorem parameterNames_of_le {m n : Nat} (hmn : m ≤ n) (h : parameterNames setting set n = .ok ()) :
    parameterNames setting set m = .ok () := by
  obtain ⟨more, rfl⟩ := Nat.exists_eq_add_of_le hmn
  simp only [parameterNames, List.range_add, List.foldlM_append, bind_eq_ok, pure_eq_ok, and_true] at h ⊢
  obtain ⟨-, owners, hfirst, -⟩ := h
  exact ⟨owners, hfirst⟩

theorem key_injective {field : Field} {i j : Nat} (h : key setting (i, field) = key setting (j, field)) :
    i = j :=
  lower_candidate_behind h

end Names

end Check

end CrudSql

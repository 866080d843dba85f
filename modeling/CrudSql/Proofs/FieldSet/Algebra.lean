import Mathlib.Data.List.Perm.Subperm
import CrudSql.Proofs.FieldSet

/-! The algebra of sets of fields. Where names are plain, a set is a set of names that differ by more than
    case, and its operations are those of sets; the fields stay in order, and each as it was first taken in. -/

namespace CrudSql.FieldSet
open Text

variable {a b set : FieldSet} {field : Field} {name other : String}

/-- A field of the set has the name, in whatever case. -/
def Names (set : FieldSet) (name : String) : Prop := ∃ field ∈ set.fields, sameName field.name name = true

theorem Names.of_sameName (h : set.Names name) (hsame : sameName name other = true) : set.Names other := by
  obtain ⟨field, hfield, hname⟩ := h
  exact ⟨field, hfield, sameName_trans hname hsame⟩

theorem names_of_mem (h : field ∈ set.fields) : set.Names field.name := ⟨field, h, sameName_refl _⟩

theorem contains_iff_names (h : Field.IsPlain { name }) : set.contains name = true ↔ set.Names name := by
  rw [contains_eq_any_sameName h, List.any_eq_true]
  rfl

/-! ### Names of the results -/

section Names
variable (ha : ∀ field ∈ a.fields, field.IsPlain)

include ha

theorem mem_inter : field ∈ (a.inter b).fields ↔ field ∈ a.fields ∧ b.Names field.name := by
  rw [inter, fields_filter, List.mem_filter]
  exact and_congr_right fun hfield => contains_iff_names (ha field hfield)

theorem mem_diff : field ∈ (a.diff b).fields ↔ field ∈ a.fields ∧ ¬b.Names field.name := by
  rw [diff, fields_filter, List.mem_filter, Bool.not_eq_true', ← Bool.not_eq_true]
  exact and_congr_right fun hfield => not_congr (contains_iff_names (ha field hfield))

theorem names_inter : (a.inter b).Names name ↔ a.Names name ∧ b.Names name := by
  constructor
  · rintro ⟨field, hfield, hname⟩
    obtain ⟨hfield, hb⟩ := (mem_inter ha).mp hfield
    exact ⟨⟨field, hfield, hname⟩, hb.of_sameName hname⟩
  · rintro ⟨⟨field, hfield, hname⟩, hb⟩
    have hb := hb.of_sameName ((sameName_comm name field.name).trans hname)
    exact ⟨field, (mem_inter ha).mpr ⟨hfield, hb⟩, hname⟩

theorem names_diff : (a.diff b).Names name ↔ a.Names name ∧ ¬b.Names name := by
  constructor
  · rintro ⟨field, hfield, hname⟩
    obtain ⟨hfield, hb⟩ := (mem_diff ha).mp hfield
    exact ⟨⟨field, hfield, hname⟩, fun h => hb (h.of_sameName ((sameName_comm name field.name).trans hname))⟩
  · rintro ⟨⟨field, hfield, hname⟩, hb⟩
    exact ⟨field, (mem_diff ha).mpr ⟨hfield, fun h => hb (h.of_sameName hname)⟩, hname⟩

theorem names_union : (b.union a).Names name ↔ b.Names name ∨ a.Names name := by
  have happend : (b.union a).Names name ↔ b.Names name ∨ (a.diff b).Names name := by
    simp only [Names, fields_union, List.mem_append, or_and_right, exists_or]
  rw [happend, names_diff ha]
  by_cases hb : b.Names name <;> simp [hb]

theorem isSubset_iff : a.isSubset b = true ↔ ∀ name, a.Names name → b.Names name := by
  rw [isSubset, List.all_eq_true]
  constructor
  · rintro h name ⟨field, hfield, hname⟩
    exact ((contains_iff_names (ha field hfield)).mp (h field hfield)).of_sameName hname
  · intro h field hfield
    exact (contains_iff_names (ha field hfield)).mpr (h field.name (names_of_mem hfield))

theorem overlaps_iff : a.overlaps b = true ↔ ∃ name, a.Names name ∧ b.Names name := by
  rw [overlaps, List.any_eq_true]
  constructor
  · rintro ⟨field, hfield, hb⟩
    exact ⟨field.name, names_of_mem hfield, (contains_iff_names (ha field hfield)).mp hb⟩
  · rintro ⟨name, ⟨field, hfield, hname⟩, hb⟩
    have hb := hb.of_sameName ((sameName_comm name field.name).trans hname)
    exact ⟨field, hfield, (contains_iff_names (ha field hfield)).mpr hb⟩

/-- A set has a field for each of its names, so no more fields than a set that has all of them. -/
theorem size_le_of_isSubset (h : a.isSubset b = true) : a.size ≤ b.size := by
  have hnodup : (a.fields.map fun field => lowerEach field.name.toList).Nodup := by
    refine List.pairwise_map.mpr ((pairwise_sameName ha).imp fun hdiffer heq => ?_)
    rw [sameName, heq, beq_self_eq_true] at hdiffer
    cases hdiffer
  have hsubset : (a.fields.map fun field => lowerEach field.name.toList) ⊆
      b.fields.map fun field => lowerEach field.name.toList := by
    intro key hkey
    obtain ⟨field, hfield, rfl⟩ := List.mem_map.mp hkey
    obtain ⟨found, hfound, hname⟩ := (isSubset_iff ha).mp h field.name (names_of_mem hfield)
    exact List.mem_map.mpr ⟨found, hfound, beq_iff_eq.mp hname⟩
  have hlength := (hnodup.subperm hsubset).length_le
  rwa [List.length_map, List.length_map] at hlength

end Names

/-! ### Laws -/

/-- What the operations on two sets and the comparisons of them say. -/
structure Laws (a b : FieldSet) : Prop where
  /-- Asking for a plain name, in whatever case, is asking for a field of that name. -/
  contains : ∀ name, Field.IsPlain { name } →
    (a.contains name = true ↔ a.Names name) ∧ (b.contains name = true ↔ b.Names name)
  union : ∀ name, Field.IsPlain { name } →
    ((a.union b).contains name = true ↔ a.contains name = true ∨ b.contains name = true)
  inter : ∀ name, Field.IsPlain { name } →
    ((a.inter b).contains name = true ↔ a.contains name = true ∧ b.contains name = true)
  diff : ∀ name, Field.IsPlain { name } →
    ((a.diff b).contains name = true ↔ a.contains name = true ∧ ¬b.contains name = true)
  /-- The fields of the first set go in order to the one or to the other result, unchanged. -/
  inter_sublist : (a.inter b).fields.Sublist a.fields
  diff_sublist : (a.diff b).fields.Sublist a.fields
  complementary : ((a.inter b).fields ++ (a.diff b).fields).Perm a.fields
  union_eq : (a.union b).fields = a.fields ++ (b.diff a).fields
  subset : a.isSubset b = true ↔ ∀ name, a.Names name → b.Names name
  superset : a.isSuperset b = true ↔ ∀ name, b.Names name → a.Names name
  overlaps : a.overlaps b = true ↔ ∃ name, a.Names name ∧ b.Names name
  size : a.isSubset b = true → b.isSubset a = true → a.size = b.size

/-- Sets of fields with plain names obey the laws of sets, by their names in whatever case. -/
theorem Made.laws (ha : Made Field.IsPlain a) (hb : Made Field.IsPlain b) : Laws a b := by
  have ha := ha.kind_of_mem
  have hb := hb.kind_of_mem
  exact {
    contains := fun name h => ⟨contains_iff_names h, contains_iff_names h⟩
    union := fun name h => by simp only [contains_iff_names h, names_union hb]
    inter := fun name h => by simp only [contains_iff_names h, names_inter ha]
    diff := fun name h => by simp only [contains_iff_names h, names_diff ha]
    inter_sublist := List.filter_sublist
    diff_sublist := List.filter_sublist
    complementary := List.filter_append_perm _ _
    union_eq := fields_union a b
    subset := isSubset_iff ha
    superset := isSubset_iff hb
    overlaps := overlaps_iff ha
    size := fun hab hba => Nat.le_antisymm (size_le_of_isSubset ha hab) (size_le_of_isSubset hb hba) }

/-- Two sets that spell the name that they share in different ways, one of them with a type. -/
theorem Made.laws_respelled :
    let a := ofList [{ name := "Id", type := some .int32 }, { name := "Straße" }]
    let b := ofList [{ name := "Code" }, { name := "ID" }]
    (a.union b).names = ["Id", "Straße", "Code"] ∧ (a.inter b).fields = [{ name := "Id", type := some .int32 }] ∧
      (a.diff b).names = ["Straße"] ∧ Laws a b := by
  intro a b
  have ha : ∀ field ∈ [({ name := "Id", type := some .int32 } : Field), { name := "Straße" }], field.IsPlain := by
    decide
  have hb : ∀ field ∈ [({ name := "Code" } : Field), { name := "ID" }], field.IsPlain := by
    decide
  exact ⟨by decide, by decide, by decide, Made.laws (.gather ha) (.gather hb)⟩

end CrudSql.FieldSet

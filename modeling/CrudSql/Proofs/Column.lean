import CrudSql.Column
import CrudSql.Proofs.Field
import CrudSql.Proofs.Outcome

/-! Columns of a table with plain names. As a field a column keeps its name, and where no two columns have
    the same name, looking one up by any spelling of its name finds it. -/

namespace CrudSql

theorem Column.name_of_field {column : Column} {field : Field} (h : Field.IsPlain { name := column.name })
    (hf : column.field = .ok field) : field.name = column.name := by
  unfold Column.field Field.typed at hf
  rw [h] at hf
  split at hf
  all_goals
    cases hf
    rfl

namespace Columns
variable {table : Columns} {column : Column} {name : String}

/-- The names of the columns that have a role. -/
def namesOf (table : Columns) (role : Column → Bool) : List String := (table.columns.filter role).map (·.name)

theorem mem_namesOf {role : Column → Bool} :
    name ∈ table.namesOf role ↔ ∃ column ∈ table.columns, role column = true ∧ column.name = name := by
  simp [namesOf, and_assoc]

/-- The fields of the primary key have the names of its columns. -/
theorem names_primaryFields {set : FieldSet} (h : table.primaryFields = .ok set)
    (hp : ∀ name ∈ table.namesOf (·.isPrimary), Field.IsPlain { name }) :
    (∀ field ∈ set.fields, field.name ∈ table.namesOf (·.isPrimary)) ∧
      ∀ name ∈ table.namesOf (·.isPrimary), ∃ field ∈ set.fields, sameName field.name name = true := by
  simp only [primaryFields, bind_eq_ok, pure_eq_ok] at h
  obtain ⟨fields, hfields, rfl⟩ := h
  have hname : ∀ column ∈ table.primaries, column.name ∈ table.namesOf (·.isPrimary) := fun column hcolumn =>
    List.mem_map_of_mem hcolumn
  constructor
  · intro field hfield
    obtain ⟨column, hcolumn, hof⟩ := exists_of_mem_mapM hfields field (FieldSet.mem_of_mem_ofList hfield)
    rw [Column.name_of_field (hp _ (hname column hcolumn)) hof]
    exact hname column hcolumn
  · intro name hmem
    obtain ⟨column, hcolumn, rfl⟩ := List.mem_map.mp hmem
    obtain ⟨field, hfield, hof⟩ := exists_mem_of_mapM hfields column hcolumn
    have hsame := Column.name_of_field (hp _ hmem) hof
    have hplain : field.IsPlain := by
      rw [Field.IsPlain, hsame]
      exact hp _ hmem
    obtain ⟨found, hfound, hhas⟩ := FieldSet.contains_iff.mp (FieldSet.contains_ofList hfield hplain)
    rw [Field.hasName_of_plain hplain, hsame] at hhas
    exact ⟨found, hfound, hhas⟩

theorem sameName_of_get? (h : table.get? name = some column) : sameName column.name name = true :=
  List.find?_some (p := fun column : Column => column.hasName name) h

/-- No two columns have the same name but for case. -/
def Distinct (table : Columns) : Prop := table.columns.Pairwise fun a b => sameName a.name b.name = false

instance : Decidable table.Distinct := List.instDecidablePairwise table.columns

theorem Distinct.eq_of_sameName (h : table.Distinct) {a b : Column} (ha : a ∈ table.columns)
    (hb : b ∈ table.columns) (hn : sameName a.name b.name = true) : a = b := by
  by_contra hne
  have : Std.Symm fun a b : Column => sameName a.name b.name = false :=
    ⟨fun a b hab => (sameName_comm b.name a.name).trans hab⟩
  have hdiffer : sameName a.name b.name = false := List.Pairwise.forall h ha hb hne
  rw [hn] at hdiffer
  cases hdiffer

/-- A name has a role exactly if it is the name of a column with that role. -/
theorem Distinct.any_get?_iff (h : table.Distinct) {role : Column → Bool} :
    (table.get? name).any role = true ↔ ∃ other ∈ table.namesOf role, sameName other name = true := by
  rw [Option.any_eq_true]
  constructor
  · rintro ⟨column, hfound, hrole⟩
    refine ⟨column.name, mem_namesOf.mpr ⟨column, List.mem_of_find?_eq_some hfound, hrole, rfl⟩, ?_⟩
    exact sameName_of_get? hfound
  · rintro ⟨_, hother, hname⟩
    obtain ⟨column, hcolumn, hrole, rfl⟩ := mem_namesOf.mp hother
    obtain ⟨found, hfound⟩ := Option.isSome_iff_exists.mp
      (List.find?_isSome.mpr ⟨column, hcolumn, hname⟩ : (table.get? name).isSome)
    have hsame := sameName_trans (sameName_of_get? hfound) ((sameName_comm name column.name).trans hname)
    rw [h.eq_of_sameName (List.mem_of_find?_eq_some hfound) hcolumn hsame] at hfound
    exact ⟨column, hfound, hrole⟩

/-- A role that a name has is one of the column with that name. -/
theorem Distinct.role_of_any_get? (h : table.Distinct) {role : Column → Bool}
    (hany : (table.get? name).any role = true) (hc : column ∈ table.columns)
    (hn : sameName name column.name = true) : role column = true := by
  obtain ⟨other, hother, hsame⟩ := h.any_get?_iff.mp hany
  obtain ⟨found, hfound, hrole, rfl⟩ := mem_namesOf.mp hother
  rwa [← h.eq_of_sameName hfound hc (sameName_trans hsame hn)]

theorem isIdentity_of_none (h : table.identity? = none) (name : String) : table.isIdentity name = false := by
  rw [← Bool.not_eq_true, isIdentity, Option.any_eq_true]
  rintro ⟨column, hcolumn, hrole⟩
  exact List.find?_eq_none.mp h column (List.mem_of_find?_eq_some hcolumn) hrole

end Columns

end CrudSql

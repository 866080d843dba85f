import CrudSql.Proofs.Column
import CrudSql.Proofs.Correlated

/-! The columns that are reported as keys. A plan has one key for each of them, under its name in the table, and
    leaves to the server only parts of the primary key that are not written. The check of the primary key makes
    sure that the server fills these. -/

namespace CrudSql
open Plan

variable {table : Columns} {written fields : FieldSet} {keys : List KeyColumn} {column : Column}

/-- Members that are related stay so where one list is filtered and of the other only those with a result are
    taken, if these are the same. -/
theorem forall₂_filter_filterMap {α β γ : Type} {r : α → β → Prop} {p : α → Bool} {f : β → Option γ} {l : List α}
    {l' : List β} (h : List.Forall₂ r l l') (hp : ∀ a b, r a b → (f b).isSome = p a) :
    List.Forall₂ (fun a c => ∃ b, r a b ∧ f b = some c) (l.filter p) (l'.filterMap f) := by
  induction h with
  | nil => exact .nil
  | @cons a b l l' hab _ ih =>
    cases hf : f b with
    | none =>
      have hout : p a = false := by
        rw [← hp a b hab, hf]
        rfl
      rw [List.filter_cons_of_neg (Bool.eq_false_iff.mp hout), List.filterMap_cons_none hf]
      exact ih
    | some c =>
      have hin : p a = true := by
        rw [← hp a b hab, hf]
        rfl
      rw [List.filter_cons_of_pos hin, List.filterMap_cons_some hf]
      exact .cons ⟨b, hab, hf⟩ ih

/-- A key stands for a column of the table. Its value is left to a default of the server where the column is a
    part of the primary key of a table without identity and is not written. -/
def KeyColumn.IsOf (table : Columns) (written : FieldSet) (column : Column) (key : KeyColumn) : Prop :=
  key.field.name = column.name ∧
    (key.source = .server ↔ table.identity? = none ∧ written.contains column.name = false)

theorem Plan.isOf_reportedKeys (hp : ∀ column ∈ table.columns, Field.IsPlain { name := column.name })
    (h : reportedKeys table written = .ok keys) :
    List.Forall₂ (KeyColumn.IsOf table written) table.reported keys := by
  unfold reportedKeys at h
  unfold Columns.reported
  cases hidentity : table.identity? with
  | some identity =>
    simp only [hidentity, bind_eq_ok, pure_eq_ok] at h
    obtain ⟨field, hfield, rfl⟩ := h
    have hname := Column.name_of_field (hp identity (List.mem_of_find?_eq_some hidentity)) hfield
    refine .cons ⟨hname, ?_⟩ .nil
    cases written.contains field.name <;> simp [hidentity]
  | none =>
    simp only [hidentity] at h
    have hplain : ∀ column ∈ table.primaries, Field.IsPlain { name := column.name } :=
      fun column hcolumn => hp column (List.mem_of_mem_filter hcolumn)
    generalize table.primaries = columns at h hplain ⊢
    induction columns generalizing keys with
    | nil =>
      cases h
      exact .nil
    | cons column columns ih =>
      simp only [List.mapM_cons, bind_eq_ok, pure_eq_ok] at h
      obtain ⟨key, ⟨field, hfield, rfl⟩, rest, hrest, rfl⟩ := h
      have hall := List.forall_mem_cons.mp hplain
      have hname := Column.name_of_field hall.1 hfield
      refine .cons ⟨hname, ?_⟩ (ih hrest hall.2)
      dsimp only
      rw [hname]
      cases written.contains column.name <;> simp [hidentity]

/-- A merge that matches rows by the identity changes where the value of a key comes from, but leaves no more
    and no fewer of them to the server. -/
theorem MergePlan.isOf_reported (identityQualifies : Bool)
    (h : List.Forall₂ (KeyColumn.IsOf table written) table.reported keys) :
    List.Forall₂ (KeyColumn.IsOf table written) table.reported (keys.map (reported identityQualifies)) := by
  refine List.forall₂_map_right_iff.mpr (h.imp fun column key hkey => ?_)
  unfold reported
  split
  · rename_i hqualifies
    have hsource : key.source = .identity := by
      simpa using (Bool.and_eq_true_iff.mp hqualifies).2
    refine ⟨hkey.1, ?_⟩
    rw [← hkey.2, hsource]
    simp
  · exact hkey

theorem KeyColumn.map_name_of_isOf (h : List.Forall₂ (KeyColumn.IsOf table written) table.reported keys) :
    keys.map (·.field.name) = table.reported.map (·.name) := by
  have hnames : List.Forall₂ (fun column key => (key : KeyColumn).field.name = (column : Column).name)
      table.reported keys := h.imp fun _ _ hkey => hkey.1
  clear h
  generalize table.reported = columns at hnames ⊢
  induction hnames with
  | nil => rfl
  | cons hname _ ih => rw [List.map_cons, List.map_cons, hname, ih]

theorem KeyColumn.isSome_selectTokens?_iff (row : Nat) (key : KeyColumn) :
    (key.selectTokens? row).isSome = true ↔ key.source ≠ .server := by
  unfold selectTokens?
  cases key.source <;> simp

/-- A required part of the primary key that is not written is filled by the server. -/
theorem Columns.filled_of_not_written (hd : table.Distinct)
    (hp : ∀ column ∈ table.columns, Field.IsPlain { name := column.name })
    (hr : requiredPrimaries fields table = .ok ())
    (hw : ∀ field ∈ fields.fields, table.isGenerated field.name = false →
      table.isIdentity field.name = false → field ∈ written.fields)
    (hi : table.identity? = none) (hc : column ∈ table.primaries) (hn : written.contains column.name = false) :
    column.hasDefault = true ∨ column.isGenerated = true := by
  have hmem := List.mem_of_mem_filter hc
  have hrequired := forM_eq_ok_iff.mp hr column hc
  split at hrequired
  · rename_i hsupplied
    simp only [Bool.or_eq_true] at hsupplied
    rcases hsupplied with (hidentity | hdefault) | hgiven
    · exact absurd hidentity (List.find?_eq_none.mp hi column hmem)
    · exact Or.inl hdefault
    · obtain ⟨field, hfield, hname⟩ := FieldSet.contains_iff.mp hgiven
      have hsame : sameName field.name column.name = true := by
        rwa [Field.hasName_of_plain (hp column hmem)] at hname
      -- The field is given and not written, so it is one that the server computes.
      have hgenerated : table.isGenerated field.name = true := by
        by_contra hother
        have hwritten := hw field hfield (Bool.eq_false_iff.mpr hother) (isIdentity_of_none hi field.name)
        exact absurd hname (Bool.eq_false_iff.mp (FieldSet.contains_eq_false_iff.mp hn field hwritten))
      exact Or.inr (hd.role_of_any_get? hgenerated hmem hsame)
  · cases hrequired

/-- The reported columns whose value is known behind the row: the identity, or the written parts of the primary
    key. -/
def Columns.selected (table : Columns) (written : FieldSet) : List Column :=
  table.reported.filter fun column =>
    table.identity?.isSome || written.fields.any fun field => sameName field.name column.name

theorem Columns.reported_subset (table : Columns) : table.reported ⊆ table.columns := by
  unfold Columns.reported
  cases hidentity : table.identity? with
  | some identity =>
    intro column hcolumn
    rw [List.mem_singleton.mp hcolumn]
    exact List.mem_of_find?_eq_some hidentity
  | none => exact List.filter_subset_self _

/-- The keys that are selected behind a row are those of the selected columns. -/
theorem Columns.forall₂_selected (hp : ∀ column ∈ table.columns, Field.IsPlain { name := column.name })
    (h : List.Forall₂ (KeyColumn.IsOf table written) table.reported keys) (row : Nat) :
    List.Forall₂ (fun column item => ∃ key : KeyColumn, key.field.name = column.name ∧
      key.selectTokens? row = some item) (table.selected written) (keys.filterMap (·.selectTokens? row)) := by
  have hselected : table.selected written = table.reported.filter fun column =>
      table.identity?.isSome || written.contains column.name := by
    refine List.filter_congr fun column hcolumn => ?_
    rw [FieldSet.contains_eq_any_sameName (hp column (table.reported_subset hcolumn))]
  rw [hselected]
  refine (forall₂_filter_filterMap h fun column key hkey => ?_).imp ?_
  · rw [Bool.eq_iff_iff, KeyColumn.isSome_selectTokens?_iff, ne_eq, hkey.2]
    cases table.identity? <;> simp
  · rintro column item ⟨key, ⟨hname, -⟩, hitem⟩
    exact ⟨key, hname, hitem⟩

theorem Columns.filled_of_not_selected (hd : table.Distinct)
    (hp : ∀ column ∈ table.columns, Field.IsPlain { name := column.name })
    (hr : requiredPrimaries fields table = .ok ())
    (hw : ∀ field ∈ fields.fields, table.isGenerated field.name = false →
      table.isIdentity field.name = false → field ∈ written.fields) :
    ∀ column ∈ table.reported, column ∉ table.selected written →
      table.identity? = none ∧ (column.hasDefault = true ∨ column.isGenerated = true) := by
  intro column hcolumn hother
  have hout : ¬(table.identity?.isSome || written.fields.any fun field => sameName field.name column.name) = true :=
    fun hin => hother (List.mem_filter.mpr ⟨hcolumn, hin⟩)
  rw [← FieldSet.contains_eq_any_sameName (hp column (table.reported_subset hcolumn)), Bool.or_eq_true, not_or,
    Bool.not_eq_true, Bool.not_eq_true, Option.isSome_eq_false_iff, Option.isNone_iff_eq_none] at hout
  obtain ⟨hi, hn⟩ := hout
  rw [Columns.reported, hi] at hcolumn
  exact ⟨hi, Columns.filled_of_not_written hd hp hr hw hi hcolumn hn⟩

namespace MergePlan.Accepted
variable {engine : Engine} {request : MergeRequest} {rows : Nat} {plan : MergePlan}

/-- In a table without identity, a merge writes no more columns for matching rows by it. -/
theorem columnsWithIdentity_eq (h : Accepted engine request rows plan) (hi : request.columns.identity? = none) :
    plan.columnsWithIdentity = plan.columns := by
  have hidentity := h.identity
  rw [hi] at hidentity
  have hnone : plan.identity = none := (Except.ok.inj hidentity).symm
  rw [columnsWithIdentity, identityQualifies, hnone]
  rfl

theorem selected_columnsWithIdentity (h : Accepted engine request rows plan) :
    request.columns.selected plan.columnsWithIdentity = request.columns.selected plan.columns := by
  cases hi : request.columns.identity? with
  | none => rw [h.columnsWithIdentity_eq hi]
  | some identity => simp [Columns.selected, hi]

end MergePlan.Accepted

end CrudSql

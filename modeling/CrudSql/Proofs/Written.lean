import CrudSql.Proofs.Matching

/-! The columns that statements write. A new row never gets a value for a generated column, and for an
    identity only where that is asked for. A row that is already there keeps its identity, the values by
    which it was matched, and what the caller wants kept. -/

namespace CrudSql

/-! ### Clauses -/

namespace Assignment

/-- The column to which a value is assigned. -/
def target : Assignment → Field
  | lastInsertId field | parameter field _ | itself field => field

/-- Whether the column may get another value than it has. -/
def changes : Assignment → Bool
  | parameter .. => true
  | lastInsertId _ | itself _ => false

end Assignment

namespace Conflict

/-- The columns to which a value is assigned. -/
def targets : Conflict → List Field
  | fail => []
  | onConflict _ updates => updates.fields
  | onDuplicateKey assignments => assignments.map (·.target)

/-- The columns that may get another value than they have. -/
def changed : Conflict → List Field
  | fail => []
  | onConflict _ updates => updates.fields
  | onDuplicateKey assignments => (assignments.filter (·.changes)).map (·.target)

end Conflict

namespace Statement

/-- The columns of a new row. -/
def inserted : Statement → List Field
  | insert i => i.columns.fields
  | merge m => m.columns.fields
  | _ => []

/-- The columns to which a value is assigned in a row that is already there. -/
def targets : Statement → List Field
  | insert i => i.conflict.targets
  | merge m => m.updates.fields
  | update _ updates _ _ => updates.fields
  | _ => []

/-- The columns that are assigned anything but themselves. -/
def changed : Statement → List Field
  | insert i => i.conflict.changed
  | merge m => m.updates.fields
  | update _ updates _ _ => updates.fields
  | _ => []

end Statement

/-! ### Names -/

/-- None of the fields has one of the names. -/
def Apart (fields : List Field) (names : List String) : Prop :=
  ∀ field ∈ fields, ∀ name ∈ names, sameName name field.name = false

section Apart
variable {a b fields : List Field} {names : List String}

theorem Apart.nil : Apart [] names := fun _ hfield => absurd hfield List.not_mem_nil

theorem Apart.mono (h : Apart fields names) (hs : ∀ field ∈ a, field ∈ fields) : Apart a names :=
  fun field hfield => h field (hs field hfield)

theorem Apart.append (ha : Apart a names) (hb : Apart b names) : Apart (a ++ b) names :=
  fun field hfield => (List.mem_append.mp hfield).elim (ha field) (hb field)

theorem Columns.Distinct.apart_iff {table : Columns} (h : table.Distinct) {role : Column → Bool} :
    Apart fields (table.namesOf role) ↔ ∀ field ∈ fields, (table.get? field.name).any role = false := by
  refine forall₂_congr fun field _ => ?_
  rw [← Bool.not_eq_true, h.any_get?_iff]
  simp

/-- Plain names are not among those of a set. -/
theorem apart_names {set : FieldSet} (hf : ∀ field ∈ fields, field.IsPlain)
    (h : ∀ field ∈ fields, set.contains field.name = false) : Apart fields set.names := by
  intro field hfield name hname
  obtain ⟨other, hother, rfl⟩ := List.mem_map.mp hname
  rw [← Field.hasName_of_plain (hf field hfield)]
  exact FieldSet.contains_eq_false_iff.mp (h field hfield) other hother

/-- Fields that are not in a set have none of the names by which they would be in it. -/
theorem apart_of_contains {set : FieldSet} (hf : ∀ field ∈ fields, field.IsPlain)
    (h : ∀ field ∈ fields, set.contains field.name = false)
    (hs : ∀ field ∈ fields, (∃ name ∈ names, sameName field.name name = true) → field ∈ set.fields) :
    Apart fields names := by
  intro field hfield name hname
  by_contra hnamed
  have hsame := (sameName_comm field.name name).trans (Bool.eq_true_of_not_eq_false hnamed)
  have hmem := hs field hfield ⟨name, hname, hsame⟩
  have hdiffer := FieldSet.contains_eq_false_iff.mp (h field hfield) field hmem
  rw [Field.hasName_of_plain (hf field hfield), sameName_refl] at hdiffer
  cases hdiffer

end Apart

namespace Write

/-- The names that the caller wants kept. -/
def keptNames (write : Write) : List String := write.keep.elim [] (·.names)

/-- The table's first identity column is one by which rows are matched. -/
def MatchesIdentity (write : Write) : Prop :=
  ∃ identity, write.columns.identity? = some identity ∧
    ∃ name ∈ write.matchNames, sameName name identity.name = true

/-- Fields with plain names, and columns with plain names that differ by more than case. -/
@[mk_iff]
structure IsPlain (write : Write) : Prop where
  fields : ∀ field ∈ write.fields.fields, field.IsPlain
  columns : ∀ column ∈ write.columns.columns, Field.IsPlain { name := column.name }
  distinct : write.columns.Distinct

instance (write : Write) : Decidable write.IsPlain := decidable_of_iff' _ (isPlain_iff write)

theorem IsPlain.namesOf {write : Write} (h : write.IsPlain) (role : Column → Bool) :
    ∀ name ∈ write.columns.namesOf role, Field.IsPlain { name } := by
  intro name hname
  obtain ⟨column, hcolumn, -, rfl⟩ := Columns.mem_namesOf.mp hname
  exact h.columns column hcolumn

theorem apart_keptNames {write : Write} {fields : List Field} (hf : ∀ field ∈ fields, field.IsPlain)
    (h : ∀ field ∈ fields, Plan.isAmong field.name write.keep = false) : Apart fields write.keptNames := by
  unfold keptNames
  cases hkeep : write.keep with
  | none => exact fun field _ name hname => absurd hname List.not_mem_nil
  | some set =>
    rw [hkeep] at h
    exact apart_names hf h

end Write

/-! ### Plans -/

section Plans
variable {engine : Engine} {s : Statement}

theorem InsertPlan.HasStatement.inserted_subset {plan : InsertPlan} (h : plan.HasStatement s) :
    (∀ field ∈ s.inserted, field ∈ plan.columns.fields) ∧ s.targets = [] ∧ s.changed = [] := by
  cases h with
  | identityInsert | selectKeys => simp [Statement.inserted, Statement.targets, Statement.changed]
  | insert i hc hf =>
    simp [Statement.inserted, Statement.targets, Statement.changed, Conflict.targets, Conflict.changed, hc, hf]
  | merge m hc hu => simp [Statement.inserted, Statement.targets, Statement.changed, FieldSet.empty, hc, hu]

namespace MySql
variable {plan : MergePlan} {assigned : Assignment} {row : Nat}

theorem mem_assignments (h : assigned ∈ assignments plan row) :
    (∃ field, plan.identity = some field ∧ plan.identityQualifies = true ∧ assigned = .lastInsertId field) ∨
      (∃ field ∈ plan.updates.fields, assigned = .parameter field row) ∨
        ∃ field ∈ plan.qualifiers.fields, assigned = .itself field := by
  obtain ⟨identity, hidentity, hassignments⟩ := assignments_eq plan row
  rw [hassignments] at h
  dsimp only at h
  split at h
  · obtain ⟨field, hfield, rfl⟩ := List.mem_map.mp h
    exact Or.inr (Or.inr ⟨field, List.mem_of_mem_take hfield, rfl⟩)
  · rcases List.mem_append.mp h with h | h
    · exact Or.inl (hidentity assigned h)
    · obtain ⟨field, hfield, rfl⟩ := List.mem_map.mp h
      exact Or.inr (Or.inl ⟨field, hfield, rfl⟩)

end MySql

namespace MergePlan.HasStatement
variable {plan : MergePlan} {dialect : Dialect}

theorem inserted_subset (h : plan.HasStatement dialect s) : ∀ field ∈ s.inserted,
    field ∈ plan.columns.fields ∨
      (field ∈ plan.source.fields ∧ plan.identityQualifies = true ∧ dialect ≠ .sqlServer) := by
  have hidentity : ∀ field ∈ plan.columnsWithIdentity.fields, field ∈ plan.columns.fields ∨
      (field ∈ plan.source.fields ∧ plan.identityQualifies = true) := by
    intro field hfield
    unfold columnsWithIdentity at hfield
    split at hfield
    · rename_i hqualifies
      exact Or.inr ⟨hfield, hqualifies⟩
    · exact Or.inl hfield
  intro field hfield
  cases h with
  | identityInsert | selectKeys => cases hfield
  | merge m _ hc _ =>
    rw [Statement.inserted, hc] at hfield
    exact Or.inl hfield
  | onConflict i hc _ | onDuplicateKey i _ hc _ =>
    rw [Statement.inserted, hc] at hfield
    exact (hidentity field hfield).imp_right fun ⟨hsource, hqualifies⟩ => ⟨hsource, hqualifies, by simp⟩

/-- Besides the updated columns, only an identity or a qualifier is assigned, and only to itself. -/
theorem targets_subset (h : plan.HasStatement dialect s) : ∀ field ∈ s.targets,
    field ∈ plan.updates.fields ∨ field ∈ plan.qualifiers.fields ∨
      (plan.identity = some field ∧ plan.identityQualifies = true) := by
  intro field hfield
  cases h with
  | identityInsert | selectKeys => cases hfield
  | merge m _ _ hu =>
    rw [Statement.targets, hu] at hfield
    exact Or.inl hfield
  | onConflict i _ hf =>
    rw [Statement.targets, hf] at hfield
    exact Or.inl hfield
  | onDuplicateKey i row _ hf =>
    rw [Statement.targets, hf] at hfield
    obtain ⟨assigned, hassigned, rfl⟩ := List.mem_map.mp hfield
    rcases MySql.mem_assignments hassigned with ⟨field, hidentity, hqualifies, rfl⟩ | ⟨field, hupdated, rfl⟩ |
      ⟨field, hqualifier, rfl⟩
    · exact Or.inr (Or.inr ⟨hidentity, hqualifies⟩)
    · exact Or.inl hupdated
    · exact Or.inr (Or.inl hqualifier)

theorem changed_subset (h : plan.HasStatement dialect s) : ∀ field ∈ s.changed, field ∈ plan.updates.fields := by
  intro field hfield
  cases h with
  | identityInsert | selectKeys => cases hfield
  | merge m _ _ hu =>
    rw [Statement.changed, hu] at hfield
    exact hfield
  | onConflict i _ hf =>
    rw [Statement.changed, hf] at hfield
    exact hfield
  | onDuplicateKey i row _ hf =>
    rw [Statement.changed, hf] at hfield
    obtain ⟨assigned, hassigned, rfl⟩ := List.mem_map.mp hfield
    obtain ⟨hassigned, hchanges⟩ := List.mem_filter.mp hassigned
    rcases MySql.mem_assignments hassigned with ⟨field, -, -, rfl⟩ | ⟨field, hupdated, rfl⟩ | ⟨field, -, rfl⟩
    · cases hchanges
    · exact hupdated
    · cases hchanges

end MergePlan.HasStatement

namespace MergePlan
variable {request : MergeRequest} {rows : Nat} {plan : MergePlan} {field : Field}

/-- The identity of a plan is the table's first identity column, if it has one. -/
theorem Accepted.identity_cases (h : Accepted engine request rows plan) (hp : request.write.IsPlain) :
    (request.columns.identity? = none ∧ plan.identity = none) ∨
      ∃ column field, request.columns.identity? = some column ∧ plan.identity = some field ∧
        field.name = column.name ∧ field.IsPlain := by
  have hidentity := h.identity
  cases hcolumn : request.columns.identity? with
  | none =>
    rw [hcolumn] at hidentity
    exact Or.inl ⟨rfl, (Except.ok.inj hidentity).symm⟩
  | some column =>
    have hplain := hp.columns column (List.mem_of_find?_eq_some hcolumn)
    rw [hcolumn] at hidentity
    change some <$> column.field = _ at hidentity
    cases hof : column.field with
    | error fault =>
      rw [hof] at hidentity
      cases hidentity
    | ok found =>
      rw [hof] at hidentity
      have hname := Column.name_of_field hplain hof
      refine Or.inr ⟨column, found, rfl, (Except.ok.inj hidentity).symm, hname, ?_⟩
      rw [Field.IsPlain, hname]
      exact hplain

/-- The identity that qualifies is the table's first identity column, and a field that matches rows has
    its name. -/
theorem Accepted.exists_qualifier (h : Accepted engine request rows plan) (hp : request.write.IsPlain)
    (hi : plan.identity = some field) (hq : plan.identityQualifies = true) :
    ∃ column, request.columns.identity? = some column ∧ field.name = column.name ∧
      ∃ qualifier ∈ plan.qualifiers.fields, sameName qualifier.name field.name = true := by
  rw [MergePlan.identityQualifies, hi, Option.any_some, FieldSet.contains_iff] at hq
  rcases h.identity_cases hp with ⟨-, hnone⟩ | ⟨column, found, hcolumn, hfound, hname, hplain⟩
  · rw [hnone] at hi
    cases hi
  · cases hfound.symm.trans hi
    obtain ⟨qualifier, hqualifier, hsame⟩ := hq
    exact ⟨column, hcolumn, hname, qualifier, hqualifier, (Field.hasName_of_plain hplain).symm.trans hsame⟩

theorem Accepted.matchesIdentity (h : Accepted engine request rows plan) (hp : request.write.IsPlain)
    (hq : plan.identityQualifies = true) : request.write.MatchesIdentity := by
  obtain ⟨field, hi, -⟩ := (Option.any_eq_true ..).mp hq
  obtain ⟨column, hcolumn, hname, qualifier, hqualifier, hsame⟩ := h.exists_qualifier hp hi hq
  obtain ⟨-, name, hmatch, hwanted⟩ := (h.mem_qualifiers hp.fields (hp.namesOf _)).mp hqualifier
  refine ⟨column, hcolumn, name, hmatch, ?_⟩
  rw [← hname]
  exact sameName_trans ((sameName_comm _ _).trans hwanted) hsame

end MergePlan

end Plans

/-! ### Statements -/

namespace Request

/-- Requests that merge rows. -/
def IsMerge : Request → Prop
  | merge _ | mergeAll _ => True
  | _ => False

/-- Requests to update the rows of a filter. -/
def IsUpdate : Request → Prop
  | update _ => True
  | _ => False

end Request

namespace Engine

/-- A statement writes no column that is not to be written. -/
structure Spares (engine : Engine) (request : Request) (write : Write) (s : Statement) : Prop where
  generated : Apart (s.inserted ++ s.targets) (write.columns.namesOf (·.isGenerated))
  insertedIdentity : engine.options.identityInsert = true ∨
    (request.IsMerge ∧ engine.dialect ≠ .sqlServer ∧ write.MatchesIdentity) ∨
      Apart s.inserted (write.columns.namesOf (·.isIdentity))
  identity : Apart s.changed (write.columns.namesOf (·.isIdentity))
  kept : Apart s.changed write.keptNames
  matched : request.IsMatched → Apart s.changed write.matchNames
  primary : request.IsUpdate → Apart s.targets (write.columns.namesOf (·.isPrimary))

variable {engine : Engine} {s : Statement} {write : Write}

/-- An insert writes neither a generated column nor, unless that is chosen, an identity. -/
theorem spares_insert {request : InsertRequest} {rows : Nat} {plan : InsertPlan} {other : Request}
    (hp : request.write.IsPlain) (h : InsertPlan.Accepted engine request rows plan)
    (hs : s ∈ engine.insertStatements plan) : engine.Spares other request.write s := by
  obtain ⟨hinserted, htargets, hchanged⟩ := (hasStatement_insertStatements hs).inserted_subset
  have hnone : ∀ names, Apart s.changed names := fun names => by
    rw [hchanged]
    exact .nil
  refine ⟨?_, ?_, hnone _, hnone _, fun _ => hnone _, fun _ => ?_⟩
  · rw [htargets, List.append_nil]
    exact (hp.distinct.apart_iff.mpr fun field hfield => (h.mem_columns.mp hfield).2.1).mono hinserted
  · by_cases hchosen : engine.options.identityInsert = true
    · exact Or.inl hchosen
    · refine Or.inr (Or.inr (Apart.mono (hp.distinct.apart_iff.mpr fun field hfield => ?_) hinserted))
      exact (h.mem_columns.mp hfield).2.2.resolve_left hchosen
  · rw [htargets]
    exact .nil

section Merges
variable {request : MergeRequest} {rows : Nat} {plan : MergePlan}

/-- A merge writes no generated column, and it never changes what rows are matched by. -/
theorem spares_merge {other : Request} (hm : other.IsMerge) (hu : ¬other.IsUpdate)
    (hp : request.write.IsPlain) (h : MergePlan.Accepted engine request rows plan)
    (hs : s ∈ engine.mergeStatements plan) : engine.Spares other request.write s := by
  have hstatement := hasStatement_mergeStatements hs
  have hqualifiers : ∀ field, field ∈ plan.qualifiers.fields ↔ field ∈ plan.source.fields ∧ _ := fun field =>
    h.mem_qualifiers hp.fields (hp.namesOf _)
  have hsource : Apart plan.source.fields (request.columns.namesOf (·.isGenerated)) :=
    hp.distinct.apart_iff.mpr fun field hfield => (h.mem_source.mp hfield).2
  have hplain : ∀ field ∈ plan.updates.fields, field.IsPlain := fun field hfield =>
    hp.fields field (h.mem_source.mp (h.mem_updates.mp hfield).1).1
  have hchanged := hstatement.changed_subset
  refine ⟨.append ?_ ?_, ?_, ?_, ?_, fun _ => ?_, fun hupdate => absurd hupdate hu⟩
  · refine hsource.mono fun field hfield => ?_
    exact (hstatement.inserted_subset field hfield).elim (fun hcolumn => (h.mem_columns.mp hcolumn).1) (·.1)
  · intro field hfield name hname
    rcases hstatement.targets_subset field hfield with hupdated | hqualifier | ⟨hidentity, hqualifies⟩
    · exact hsource field (h.mem_updates.mp hupdated).1 name hname
    · exact hsource field ((hqualifiers field).mp hqualifier).1 name hname
    · -- The identity has the name of a qualifier, which is not generated.
      obtain ⟨column, -, -, qualifier, hqualifier, hsame⟩ := h.exists_qualifier hp hidentity hqualifies
      have hdiffer := hsource qualifier ((hqualifiers qualifier).mp hqualifier).1 name hname
      by_contra hnamed
      rw [sameName_trans (Bool.eq_true_of_not_eq_false hnamed) ((sameName_comm _ _).trans hsame)] at hdiffer
      cases hdiffer
  · by_cases hchosen : engine.options.identityInsert = true
    · exact Or.inl hchosen
    · by_cases hidentity : plan.identityQualifies = true ∧ engine.dialect ≠ .sqlServer
      · exact Or.inr (Or.inl ⟨hm, hidentity.2, h.matchesIdentity hp hidentity.1⟩)
      · refine Or.inr (Or.inr (hp.distinct.apart_iff.mpr fun field hfield => ?_))
        have hcolumn := (hstatement.inserted_subset field hfield).resolve_right fun hqualifies =>
          hidentity hqualifies.2
        exact (h.mem_columns.mp hcolumn).2.resolve_left hchosen
  · exact (hp.distinct.apart_iff.mpr fun field hfield => (h.mem_updates.mp hfield).2.2.1).mono hchanged
  · exact (Write.apart_keptNames hplain fun field hfield => (h.mem_updates.mp hfield).2.2.2).mono hchanged
  · exact (apart_of_contains hplain (fun field hfield => (h.mem_updates.mp hfield).2.1) fun field hfield hnamed =>
      (hqualifiers field).mpr ⟨(h.mem_updates.mp hfield).1, hnamed⟩).mono hchanged

end Merges

section Updates
variable {request : UpdateRequest} {plan : UpdatePlan}

/-- An update of the rows of a filter changes no key. -/
theorem spares_update (hp : request.write.IsPlain) (h : engine.update request = .ok s) :
    engine.Spares (.update request) request.write s := by
  simp only [update, bind_eq_ok, pure_eq_ok] at h
  obtain ⟨plan, hplan, rfl⟩ := h
  have haccepted := UpdatePlan.ofFilter_eq_ok_iff.mp hplan
  have hrole : ∀ role : Column → Bool, (∀ column, role column = true →
      (column.isPrimary || column.isIdentity || column.isGenerated) = true) →
      Apart plan.updates.fields (request.columns.namesOf role) := by
    intro role hrole
    refine hp.distinct.apart_iff.mpr fun field hfield => ?_
    have hnone := (haccepted.mem_updates.mp hfield).2.1
    show (request.columns.get? field.name).any role = false
    cases hfound : request.columns.get? field.name with
    | none => rfl
    | some column =>
      rw [hfound, Option.any_some] at hnone
      exact Bool.eq_false_iff.mpr fun hcolumn => Bool.eq_false_iff.mp hnone (hrole column hcolumn)
  have hplain : ∀ field ∈ plan.updates.fields, field.IsPlain := fun field hfield =>
    hp.fields field (haccepted.mem_updates.mp hfield).1
  refine ⟨hrole _ (by simp +contextual), Or.inr (Or.inr Apart.nil), hrole _ (by simp +contextual), ?_, False.elim,
    fun _ => hrole _ (by simp +contextual)⟩
  exact Write.apart_keptNames hplain fun field hfield => (haccepted.mem_updates.mp hfield).2.2

/-- An update row by row never changes what rows are matched by. -/
theorem spares_updateAll (hp : request.write.IsPlain) (h : UpdatePlan.AcceptedRows engine request plan)
    (row : Nat) : engine.Spares (.updateAll request) request.write
      (.update plan.target plan.updates row (.matching plan.qualifiers)) := by
  have hplain : ∀ field ∈ plan.updates.fields, field.IsPlain := fun field hfield =>
    hp.fields field (h.mem_updates.mp hfield).1
  refine ⟨?_, Or.inr (Or.inr Apart.nil), ?_, ?_, fun _ => ?_, False.elim⟩
  · exact hp.distinct.apart_iff.mpr fun field hfield => (h.mem_updates.mp hfield).2.2.2.1
  · exact hp.distinct.apart_iff.mpr fun field hfield => (h.mem_updates.mp hfield).2.2.1
  · exact Write.apart_keptNames hplain fun field hfield => (h.mem_updates.mp hfield).2.2.2.2
  · exact apart_of_contains hplain (fun field hfield => (h.mem_updates.mp hfield).2.1) fun field hfield hnamed =>
      (h.mem_qualifiers hp.fields (hp.namesOf _)).mpr ⟨(h.mem_updates.mp hfield).1, hnamed⟩

end Updates

/-- Columns that must not be written are never written. Where the fields of a request have plain names, and
    the columns of the table plain names that differ by more than case, no statement gives a value to a
    generated column. A new row has an identity only by choice or, outside SQL Server, in a merge that matches rows by
    the first identity column. Nothing but itself is assigned to an identity, to a column that is to be kept
    or to one that matches rows, and an update by a filter sets no primary column. -/
theorem spares_of_build {request : Request} (hw : request.write? = some write) (hp : write.IsPlain)
    {sql : String} (h : (engine.build request).outcome = .ok sql) :
    ∃ statements, (engine.statements request).outcome = .ok statements ∧
      sql = Statement.render engine.setting statements ∧ ∀ s ∈ statements, engine.Spares request write s := by
  obtain ⟨statements, hstatements, rfl⟩ := build_eq_ok_iff.mp h
  refine ⟨statements, hstatements, rfl, fun s hs => ?_⟩
  cases request with
  | insert request | insertAll request =>
    cases hw
    obtain ⟨plan, hplan, rfl⟩ := insert_eq_ok_iff.mp hstatements
    exact spares_insert hp hplan hs
  | merge request | mergeAll request =>
    cases hw
    obtain ⟨plan, hplan, rfl⟩ := merge_eq_ok_iff.mp hstatements
    exact spares_merge trivial id hp hplan hs
  | update request =>
    cases hw
    obtain ⟨updated, hupdate, rfl⟩ := single_eq_ok_iff.mp hstatements
    cases List.mem_singleton.mp hs
    exact spares_update hp hupdate
  | updateAll request =>
    cases hw
    obtain ⟨plan, hplan, rfl⟩ := updateAll_eq_ok_iff.mp hstatements
    obtain ⟨row, -, rfl⟩ := List.mem_map.mp hs
    exact spares_updateAll hp hplan row
  | _ => cases hw

set_option maxRecDepth 1024 in
/-- A row that is matched by its identity, with a generated column and one that keeps its value. -/
theorem spares_of_build_matched :
    let engine : Engine := { dialect := .mySql }
    let fields : FieldSet :=
      ⟨[{ name := "Id" }, { name := "Name" }, { name := "Total" }, { name := "Kind" }], of_decide_eq_true rfl⟩
    let columns : Columns :=
      ⟨[{ name := "Id", isPrimary := true, isIdentity := true }, { name := "Total", isGenerated := true }]⟩
    let merge : MergeRequest := { table := "T", fields, columns, keep := some (.singleton { name := "kind" }) }
    let sql := "INSERT INTO `T` (`Id`, `Name`, `Kind`) VALUES (@Id, @Name, @Kind) " ++
      "ON DUPLICATE KEY UPDATE `Id` = LAST_INSERT_ID(`Id`), `Name` = @Name; " ++
      "SELECT COALESCE(@Id, LAST_INSERT_ID()) AS `Id`;"
    (Request.merge merge).write? = some merge.write ∧ merge.write.IsPlain ∧
      (engine.build (.merge merge)).outcome = .ok sql ∧
      ∃ statements, (engine.statements (.merge merge)).outcome = .ok statements ∧
        sql = Statement.render engine.setting statements ∧
        ∀ s ∈ statements, engine.Spares (.merge merge) merge.write s := by
  intro engine fields columns merge sql
  have hp : merge.write.IsPlain := by
    decide
  let source : FieldSet := ⟨[{ name := "Id" }, { name := "Name" }, { name := "Kind" }], of_decide_eq_true rfl⟩
  have hplan : MergePlan.Accepted engine merge 1 {
      target := ⟨⟨["T"]⟩, none⟩
      source
      columns := ⟨[{ name := "Name" }, { name := "Kind" }], of_decide_eq_true rfl⟩
      qualifiers := .singleton { name := "Id" }
      updates := .singleton { name := "Name" }
      identity := some { name := "Id" }
      keys := [⟨{ name := "Id" }, .suppliedOrIdentity⟩]
      rows := 1
      writesIdentity := false } := by
    with_unfolding_all decide
  have hstatements : (engine.statements (.merge merge)).outcome = .ok _ := merge_eq_ok_iff.mpr ⟨_, hplan, rfl⟩
  have hbuild : (engine.build (.merge merge)).outcome = .ok sql :=
    build_eq_ok_iff.mpr ⟨_, hstatements, by with_unfolding_all decide⟩
  exact ⟨rfl, hp, hbuild, spares_of_build rfl hp hbuild⟩

end Engine

end CrudSql

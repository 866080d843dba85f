import Mathlib.Tactic.MkIffOfInductiveProp
import CrudSql.Plan
import CrudSql.Proofs.Check.Names

/-! Accepted requests to write rows. A plan is given for a request exactly if every check passes, and then
    it is made of the fields of the request in a way that only the columns of the table decide. -/

namespace CrudSql
open Plan

variable {engine : Engine}

namespace Plan
variable {table : Ident} {fields set : FieldSet} {columns : Columns} {given : Option FieldSet}

/-- The qualifiers that are given, if there are any, and otherwise the primary key. -/
def Wanted (columns : Columns) (given : Option FieldSet) (wanted : FieldSet) : Prop :=
  match given.filter fun set => !set.isEmpty with
  | some qualifiers => wanted = qualifiers
  | none => columns.primaryFields = .ok wanted

/-- Rows are matched by the fields of the request that are wanted, which are not none and all there. -/
theorem matchFields_eq_ok_iff : (matchFields table fields columns given).outcome = .ok set ↔
    ∃ wanted, Wanted columns given wanted ∧ wanted.isEmpty = false ∧ wanted.isSubset fields = true ∧
      set = fields.filter fun field => wanted.contains field.name := by
  have hmissing : ∀ wanted : FieldSet, wanted.isSubset fields = true ↔
      wanted.fields.find? (fun field => !fields.contains field.name) = none := by
    intro wanted
    simp [FieldSet.isSubset]
  unfold matchFields Wanted
  cases hgiven : given.filter fun set => !set.isEmpty with
  | some qualifiers =>
    have hne : qualifiers.isEmpty = false := by
      simpa using (Option.filter_eq_some_iff.mp hgiven).2
    simp only [exists_eq_left, hne, true_and, hmissing]
    cases qualifiers.fields.find? fun field => !fields.contains field.name with
    | some missing => simp [throw, throwThe, MonadExceptOf.throw]
    | none =>
      simp only [Trace.outcome_pure, pure_eq_ok, true_and]
      exact eq_comm
  | none =>
    simp only [Trace.outcome_bind, Trace.outcome_lift, Trace.outcome_ite, Trace.outcome_throw, throw_bind,
      bind_eq_ok, ite_throw_eq_ok, Bool.not_eq_true, hmissing]
    refine exists_congr fun primaries => and_congr_right fun _ => and_congr_right fun _ => ?_
    cases primaries.fields.find? fun field => !fields.contains field.name with
    | some missing => simp [throw, throwThe, MonadExceptOf.throw]
    | none =>
      simp only [Trace.outcome_bind, Trace.outcome_emit, Trace.outcome_pure, bind_eq_ok, pure_eq_ok,
        exists_const, true_and]
      exact eq_comm

/-- A key is reported for a column of the table, and it is supplied if it is written. Otherwise the server
    fills it: the only key of a table with an identity, or else a part of the primary key. -/
theorem mem_reportedKeys {written : FieldSet} {keys : List KeyColumn}
    (h : reportedKeys columns written = .ok keys) : ∀ key ∈ keys, ∃ column ∈ columns.columns,
      column.field = .ok key.field ∧
        ((key.source = .supplied ∧ written.contains key.field.name = true) ∨
          (key.source = .identity ∧ columns.identity? = some column) ∨ key.source = .server) := by
  intro key hkey
  unfold reportedKeys at h
  split at h
  · rename_i column hidentity
    simp only [bind_eq_ok, pure_eq_ok] at h
    obtain ⟨field, hfield, rfl⟩ := h
    cases List.mem_singleton.mp hkey
    refine ⟨column, List.mem_of_find?_eq_some hidentity, hfield, ?_⟩
    cases hwritten : written.contains field.name <;> simp [hidentity]
  · obtain ⟨column, hcolumn, h⟩ := exists_of_mem_mapM h key hkey
    simp only [bind_eq_ok, pure_eq_ok] at h
    obtain ⟨field, hfield, rfl⟩ := h
    refine ⟨column, List.mem_of_mem_filter hcolumn, hfield, ?_⟩
    cases hwritten : written.contains field.name <;> simp

end Plan

namespace InsertPlan
variable {request : InsertRequest} {rows : Nat} {plan : InsertPlan}

/-- The fields that are written: none that the server generates, and the identity only by choice. -/
def written (engine : Engine) (request : InsertRequest) : FieldSet :=
  request.fields.filter fun field =>
    !request.columns.isGenerated field.name &&
      (engine.options.identityInsert || !request.columns.isIdentity field.name)

/-- The plan for an insert of the given number of rows, all checks of which pass. -/
@[mk_iff]
structure Accepted (engine : Engine) (request : InsertRequest) (rows : Nat) (plan : InsertPlan) : Prop where
  table : Check.table request.table = .ok plan.target.table
  hints : plan.target.hints = request.hints
  columns : plan.columns = written engine request
  keys : reportedKeys request.columns plan.columns = .ok plan.keys
  batch : plan.rows = rows
  writesIdentity : plan.writesIdentity = plan.columns.fields.any fun field =>
    request.columns.isIdentity field.name
  hasFields : Check.fields request.fields = .ok ()
  hasRows : Check.rows rows = .ok ()
  knowsHints : Check.hints engine request.hints = .ok ()
  primaries : requiredPrimaries request.fields request.columns = .ok ()
  limit : Check.parameterLimit engine.setting plan.columns.size rows = .ok ()
  names : Check.parameterNames engine.setting plan.columns rows = .ok ()

theorem of_eq_ok_iff : of engine request rows = .ok plan ↔ Accepted engine request rows plan := by
  simp only [of, bind_eq_ok, exists_unit_eq_ok, pure_eq_ok]
  constructor
  · rintro ⟨table, htable, hfields, hrows, hhints, hprimaries, hlimit, hnames, keys, hkeys, rfl⟩
    exact ⟨htable, rfl, rfl, hkeys, rfl, rfl, hfields, hrows, hhints, hprimaries, hlimit, hnames⟩
  · obtain ⟨⟨table, hints⟩, columns, keys, planned, writesIdentity⟩ := plan
    rintro ⟨htable, htarget, hcolumns, hkeys, hbatch, hwrites, hfields, hrows, hhints, hprimaries, hlimit,
      hnames⟩
    dsimp only at *
    subst htarget hcolumns hbatch hwrites
    exact ⟨table, htable, hfields, hrows, hhints, hprimaries, hlimit, hnames, keys, hkeys, rfl⟩

instance : Decidable (Accepted engine request rows plan) := decidable_of_iff' _ (accepted_iff ..)

theorem Accepted.mem_columns (h : Accepted engine request rows plan) {field : Field} :
    field ∈ plan.columns.fields ↔ field ∈ request.fields.fields ∧
      request.columns.isGenerated field.name = false ∧
      (engine.options.identityInsert = true ∨ request.columns.isIdentity field.name = false) := by
  rw [h.columns, written, FieldSet.fields_filter, List.mem_filter]
  simp

end InsertPlan

namespace MergePlan
variable {request : MergeRequest} {rows : Nat} {plan : MergePlan}

/-- Where a reported key comes from in a merge: a server's number may also be a parameter, if rows are
    matched by the identity. -/
def reported (identityQualifies : Bool) (key : KeyColumn) : KeyColumn :=
  if identityQualifies && key.source = .identity then { key with source := .suppliedOrIdentity } else key

/-- The plan for a merge of the given number of rows, all checks of which pass. -/
@[mk_iff]
structure Accepted (engine : Engine) (request : MergeRequest) (rows : Nat) (plan : MergePlan) : Prop where
  table : Check.table request.table = .ok plan.target.table
  hints : plan.target.hints = request.hints
  source : plan.source = request.fields.filter fun field => !request.columns.isGenerated field.name
  qualifiers : (matchFields plan.target.table plan.source request.columns request.qualifiers).outcome =
    .ok plan.qualifiers
  columns : plan.columns = plan.source.filter fun field =>
    engine.options.identityInsert || !request.columns.isIdentity field.name
  identity : request.columns.identity?.mapM (·.field) = .ok plan.identity
  updates : plan.updates = plan.source.filter fun field =>
    !plan.qualifiers.contains field.name && !request.columns.isIdentity field.name &&
      !isAmong field.name request.keep
  keys : ∃ keys, reportedKeys request.columns plan.columns = .ok keys ∧
    plan.keys = keys.map (reported plan.identityQualifies)
  batch : plan.rows = rows
  writesIdentity : plan.writesIdentity = plan.columns.fields.any fun field =>
    request.columns.isIdentity field.name
  hasFields : Check.fields request.fields = .ok ()
  hasRows : Check.rows rows = .ok ()
  knowsHints : Check.hints engine request.hints = .ok ()
  primaries : requiredPrimaries request.fields request.columns = .ok ()
  hasSource : plan.source.isEmpty = false
  limit : Check.parameterLimit engine.setting plan.source.size rows = .ok ()
  names : Check.parameterNames engine.setting plan.source rows = .ok ()

theorem of_eq_ok_iff : (of engine request rows).outcome = .ok plan ↔ Accepted engine request rows plan := by
  have hlift : ∀ column : Option Column, (column.mapM fun x => (liftM x.field : Trace Field)).outcome =
      column.mapM (·.field) := by
    intro column
    cases column with
    | none => rfl
    | some column =>
      show (some <$> (liftM column.field : Trace Field)).outcome = some <$> column.field
      cases column.field <;> rfl
  simp only [of, Trace.outcome_bind, Trace.outcome_lift, Trace.outcome_ite, Trace.outcome_throw,
    Trace.outcome_pure, throw_bind, bind_eq_ok, exists_unit_eq_ok, ite_throw_eq_ok, pure_eq_ok, hlift]
  constructor
  · rintro ⟨table, htable, hfields, hrows, hhints, hprimaries, hsource, qualifiers, hqualifiers, hlimit,
      hnames, identity, hidentity, keys, hkeys, rfl⟩
    exact ⟨htable, rfl, rfl, hqualifiers, rfl, hidentity, rfl, ⟨keys, hkeys, rfl⟩, rfl, rfl, hfields, hrows,
      hhints, hprimaries, Bool.eq_false_iff.mpr hsource, hlimit, hnames⟩
  · obtain ⟨⟨table, hints⟩, source, columns, qualifiers, updates, identity, keys, planned, writes⟩ := plan
    rintro ⟨htable, htarget, hsourceEq, hqualifiers, hcolumns, hidentity, hupdates, ⟨given, hkeys, hgiven⟩,
      hbatch, hwrites, hfields, hrows, hhints, hprimaries, hsource, hlimit, hnames⟩
    dsimp only [identityQualifies] at *
    subst htarget hsourceEq hcolumns hupdates hgiven hbatch hwrites
    exact ⟨table, htable, hfields, hrows, hhints, hprimaries, Bool.eq_false_iff.mp hsource, qualifiers,
      hqualifiers, hlimit, hnames, identity, hidentity, given, hkeys, rfl⟩

instance : Decidable (Accepted engine request rows plan) := decidable_of_iff' _ (accepted_iff ..)

/-- A merge of two rows into a table that numbers them. They are matched by the number, which is written only
    in a row that is already there. -/
theorem accepted_numbered (dialect : Dialect) : Accepted { dialect }
    { table := "T", fields := ⟨[{ name := "Id" }, { name := "Name" }], of_decide_eq_true rfl⟩,
      columns := ⟨[{ name := "Id", isPrimary := true, isIdentity := true }]⟩, rows := 2 } 2 {
      target := ⟨⟨["T"]⟩, none⟩
      source := ⟨[{ name := "Id" }, { name := "Name" }], of_decide_eq_true rfl⟩
      columns := ⟨[{ name := "Name" }], List.pairwise_singleton _ _⟩
      qualifiers := ⟨[{ name := "Id" }], List.pairwise_singleton _ _⟩
      updates := ⟨[{ name := "Name" }], List.pairwise_singleton _ _⟩
      identity := some { name := "Id" }
      keys := [⟨{ name := "Id" }, .suppliedOrIdentity⟩]
      rows := 2
      writesIdentity := false } := by
  cases dialect <;> with_unfolding_all decide

section Columns
variable {field : Field} (h : Accepted engine request rows plan)

include h

theorem Accepted.mem_source : field ∈ plan.source.fields ↔
    field ∈ request.fields.fields ∧ request.columns.isGenerated field.name = false := by
  rw [h.source, FieldSet.fields_filter, List.mem_filter]
  simp

theorem Accepted.source_sublist : plan.source.fields.Sublist request.fields.fields := by
  rw [h.source]
  exact List.filter_sublist

theorem Accepted.mem_columns : field ∈ plan.columns.fields ↔ field ∈ plan.source.fields ∧
    (engine.options.identityInsert = true ∨ request.columns.isIdentity field.name = false) := by
  rw [h.columns, FieldSet.fields_filter, List.mem_filter]
  simp

theorem Accepted.qualifiers_subset : plan.qualifiers.fields ⊆ plan.source.fields := by
  obtain ⟨wanted, -, -, -, hqualifiers⟩ := matchFields_eq_ok_iff.mp h.qualifiers
  rw [hqualifiers, FieldSet.fields_filter]
  exact List.filter_subset_self _

theorem Accepted.mem_updates : field ∈ plan.updates.fields ↔ field ∈ plan.source.fields ∧
    plan.qualifiers.contains field.name = false ∧ request.columns.isIdentity field.name = false ∧
    isAmong field.name request.keep = false := by
  rw [h.updates, FieldSet.fields_filter, List.mem_filter]
  simp [and_assoc]

end Columns

end MergePlan

namespace UpdatePlan
variable {request : UpdateRequest} {plan : UpdatePlan}

/-- The plan for an update row by row, all checks of which pass. -/
structure AcceptedRows (engine : Engine) (request : UpdateRequest) (plan : UpdatePlan) : Prop where
  table : Check.table request.table = .ok plan.target.table
  hints : plan.target.hints = request.hints
  qualifiers : (matchFields plan.target.table request.fields request.columns request.qualifiers).outcome =
    .ok plan.qualifiers
  updates : plan.updates = request.fields.filter fun field =>
    !plan.qualifiers.contains field.name && !request.columns.isIdentity field.name &&
      !request.columns.isGenerated field.name && !isAmong field.name request.keep
  batch : plan.rows = request.rows
  hasFields : Check.fields request.fields = .ok ()
  hasRows : Check.rows request.rows = .ok ()
  knowsHints : Check.hints engine request.hints = .ok ()
  hasUpdates : plan.updates.isEmpty = false
  limit : Check.parameterLimit engine.setting (plan.updates.size + plan.qualifiers.size) request.rows = .ok ()
  names : Check.parameterNames engine.setting (plan.updates.union plan.qualifiers) request.rows = .ok ()

theorem ofRows_eq_ok_iff :
    (ofRows engine request).outcome = .ok plan ↔ AcceptedRows engine request plan := by
  simp only [ofRows, Trace.outcome_bind, Trace.outcome_lift, Trace.outcome_ite, Trace.outcome_throw,
    Trace.outcome_pure, throw_bind, bind_eq_ok, exists_unit_eq_ok, ite_throw_eq_ok, pure_eq_ok]
  constructor
  · rintro ⟨table, htable, hfields, hrows, hhints, qualifiers, hqualifiers, hupdates, hlimit, hnames, rfl⟩
    exact ⟨htable, rfl, hqualifiers, rfl, rfl, hfields, hrows, hhints, Bool.eq_false_iff.mpr hupdates, hlimit,
      hnames⟩
  · obtain ⟨⟨table, hints⟩, updates, qualifiers, rows⟩ := plan
    rintro ⟨htable, htarget, hqualifiers, hupdatesEq, hbatch, hfields, hrows, hhints, hupdates, hlimit, hnames⟩
    dsimp only at *
    subst htarget hupdatesEq hbatch
    exact ⟨table, htable, hfields, hrows, hhints, qualifiers, hqualifiers, Bool.eq_false_iff.mp hupdates,
      hlimit, hnames, rfl⟩

theorem AcceptedRows.mem_updates (h : AcceptedRows engine request plan) {field : Field} :
    field ∈ plan.updates.fields ↔ field ∈ request.fields.fields ∧
      plan.qualifiers.contains field.name = false ∧ request.columns.isIdentity field.name = false ∧
      request.columns.isGenerated field.name = false ∧ isAmong field.name request.keep = false := by
  rw [h.updates, FieldSet.fields_filter, List.mem_filter]
  simp [and_assoc]

/-- The plan for an update of the rows of a filter, all checks of which pass. -/
@[mk_iff]
structure AcceptedFilter (engine : Engine) (request : UpdateRequest) (lead : String) (plan : UpdatePlan) :
    Prop where
  table : Check.table request.table = .ok plan.target.table
  hints : plan.target.hints = request.hints
  updates : plan.updates = request.fields.filter fun field =>
    !(request.columns.get? field.name).any (fun column =>
        column.isPrimary || column.isIdentity || column.isGenerated) &&
      !isAmong field.name request.keep
  qualifiers : plan.qualifiers = .empty
  batch : plan.rows = 1
  hasFields : Check.fields request.fields = .ok ()
  knowsHints : Check.hints engine request.hints = .ok ()
  hasUpdates : plan.updates.isEmpty = false
  names : Check.parameterNames engine.setting plan.updates 1 = .ok ()
  filter : ∃ bindings, Check.filter engine.setting lead plan.updates.size request.filter = .ok bindings ∧
    ∀ field ∈ plan.updates.fields, ∀ binding ∈ bindings,
      Text.lower (parameterBase field.name) ≠ Text.lower binding.1

instance {lead : String} : Decidable (AcceptedFilter engine request lead plan) :=
  decidable_of_iff' _ (acceptedFilter_iff ..)

theorem AcceptedFilter.mem_updates {lead : String} (h : AcceptedFilter engine request lead plan) {field : Field} :
    field ∈ plan.updates.fields ↔ field ∈ request.fields.fields ∧
      (request.columns.get? field.name).any (fun column =>
        column.isPrimary || column.isIdentity || column.isGenerated) = false ∧
      isAmong field.name request.keep = false := by
  rw [h.updates, FieldSet.fields_filter, List.mem_filter]
  simp

theorem ofFilter_eq_ok_iff {lead : String} :
    ofFilter engine request lead = .ok plan ↔ AcceptedFilter engine request lead plan := by
  simp only [ofFilter, throw_bind, bind_eq_ok, exists_unit_eq_ok, ite_throw_eq_ok, pure_eq_ok, forM_eq_ok_iff]
  constructor
  · rintro ⟨table, htable, hfields, hhints, hupdates, hnames, bindings, hbindings, hdiffer, rfl⟩
    refine ⟨htable, rfl, rfl, rfl, rfl, hfields, hhints, Bool.eq_false_iff.mpr hupdates, hnames, bindings,
      hbindings, fun field hfield binding hbinding hsame => ?_⟩
    have hfield := hdiffer field hfield
    split at hfield
    · cases hfield
    · rename_i hnone
      exact List.find?_eq_none.mp hnone binding hbinding (beq_iff_eq.mpr hsame)
  · obtain ⟨⟨table, hints⟩, updates, qualifiers, rows⟩ := plan
    rintro ⟨htable, htarget, hupdatesEq, hqualifiers, hbatch, hfields, hhints, hupdates, hnames, bindings,
      hbindings, hdiffer⟩
    dsimp only at *
    subst htarget hupdatesEq hqualifiers hbatch
    refine ⟨table, htable, hfields, hhints, Bool.eq_false_iff.mp hupdates, hnames, bindings, hbindings,
      fun field hfield => ?_, rfl⟩
    split
    · rename_i name value hfound
      have hsame := List.find?_some hfound
      exact absurd (beq_iff_eq.mp hsame) (hdiffer field hfield _ (List.mem_of_find?_eq_some hfound))
    · rfl

end UpdatePlan

end CrudSql

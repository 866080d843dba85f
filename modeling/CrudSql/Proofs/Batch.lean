import CrudSql.Proofs.Build
import CrudSql.Proofs.Statement.Parameters

/-! The parameters of a batch. Where every row has a list of values or assignments of its own, the text has
    each bound column once in each row; with plain names no two of these parameters clash, as the check of
    names has gone through all of them. -/

namespace CrudSql
open Text

/-- The parameters of columns in the rows of a batch, row by row. -/
def batchParameters (columns : List Field) (rows : Nat) : List String :=
  (List.range rows).flatMap (rowParameters columns)

/-! ### Checked names -/

namespace Check
variable {setting : Setting} {set : FieldSet} {columns : List Field} {rows : Nat}

theorem map_places (columns : List Field) (rows : Nat) :
    (places columns rows).map (fun place => rowParameter place.2.name place.1) =
      batchParameters columns rows := by
  rw [places, batchParameters, List.map_flatMap]
  refine List.flatMap_congr fun row _ => ?_
  rw [List.map_map]
  rfl

theorem key_eq (h : setting.parameterMark = '@') (place : Place) :
    key setting place = "@" ++ lower (rowParameter place.2.name place.1) := by
  have hmark : IsWordEnd '@' ∧ lowerChar '@' = ['@'] := by
    have hplain : isCased '@' = false ∧ isCaseIgnorable '@' = false ∧ '@' ≠ capitalSigma ∧
        lowerChar '@' = ['@'] := by
      decide +kernel
    exact ⟨⟨hplain.1, hplain.2.1, hplain.2.2.1⟩, hplain.2.2.2⟩
  apply String.toList_injective
  rw [key, toList_lower, String.toList_append, String.toList_ofList, h, String.toList_append, toList_lower]
  have hcut := hmark.1.lowerChars_append [] (rowParameter place.2.name place.1).toList
  rw [hmark.2] at hcut
  exact hcut

/-- Columns of a checked set have parameters that differ by more than case. -/
theorem nodup_batchParameters (hm : setting.parameterMark = '@')
    (h : parameterNames setting set rows = .ok ()) (hc : columns.Sublist set.fields) :
    ((batchParameters columns rows).map lower).Nodup := by
  have hkeys := parameterNames_eq_ok_iff.mp h
  have hsub : (places columns rows).Sublist (places set.fields rows) :=
    List.Sublist.flatMap_right _ fun row _ => hc.map _
  have hnodup := hkeys.sublist (hsub.map (key setting))
  rw [List.map_congr_left fun place _ => key_eq hm place] at hnodup
  rw [← map_places, List.map_map]
  refine List.Nodup.of_map ("@" ++ ·) ?_
  rwa [List.map_map]

theorem length_mul_le (hl : setting.maxParameters < maxCount) {perRow : Nat}
    (h : parameterLimit setting perRow rows = .ok ()) : perRow * rows ≤ setting.maxParameters := by
  have := parameterLimit_eq_ok_iff.mp h
  omega

end Check

/-! ### Statements for the rows -/

section Statements
variable {setting : Setting} {options : Options}

theorem SqlServer.placeholders_withIdentity (table : Ident) (writesIdentity : Bool)
    (statements : List Statement) :
    (withIdentity table writesIdentity statements).flatMap (·.placeholders setting) =
      statements.flatMap (·.placeholders setting) := by
  unfold withIdentity
  split
  · simp
  · rfl

theorem batchParameters_nil (rows : Nat) : batchParameters [] rows = [] :=
  List.flatMap_eq_nil_iff.mpr fun _ _ => rfl

theorem SqlServer.placeholders_insert (plan : InsertPlan) :
    (withIdentity plan.target.table plan.writesIdentity (insertStatements options plan)).flatMap
      (·.placeholders setting) = batchParameters plan.columns.fields plan.rows := by
  rw [placeholders_withIdentity]
  unfold insertStatements
  split
  · rename_i hempty
    have hnil : plan.columns.fields = [] := List.isEmpty_iff.mp hempty
    rw [hnil, batchParameters_nil]
    exact List.flatMap_eq_nil_iff.mpr fun s hs => by simp [List.eq_of_mem_replicate hs]
  · split
    all_goals simp [batchParameters]

theorem PostgreSql.placeholders_insert (plan : InsertPlan) :
    (insert plan).flatMap (·.placeholders setting) = batchParameters plan.columns.fields plan.rows := by
  have hrow : ∀ row, (insertRow plan row).placeholders setting = rowParameters plan.columns.fields row := by
    intro row
    cases hempty : plan.columns.isEmpty
    · simp [insertRow, hempty]
    · have hnil : plan.columns.fields = [] := List.isEmpty_iff.mp hempty
      simp [insertRow, hempty, hnil, rowParameters]
  simp [insert, List.flatMap_map, hrow, batchParameters]

theorem SqlServer.placeholders_merge (plan : MergePlan) :
    (merge plan).flatMap (·.placeholders setting) = batchParameters plan.source.fields plan.rows := by
  rw [merge, placeholders_withIdentity]
  simp [batchParameters]

theorem PostgreSql.placeholders_merge (plan : MergePlan) : (merge plan).flatMap (·.placeholders setting) =
    batchParameters plan.columnsWithIdentity.fields plan.rows := by
  simp [merge, mergeRow, List.flatMap_map, batchParameters]

end Statements

/-! ### Plans -/

section Plans
variable {engine : Engine}

theorem MergePlan.Accepted.columnsWithIdentity_sublist {request : MergeRequest} {rows : Nat}
    {plan : MergePlan} (h : MergePlan.Accepted engine request rows plan) :
    plan.columnsWithIdentity.fields.Sublist plan.source.fields := by
  unfold MergePlan.columnsWithIdentity
  split
  · exact .refl _
  · rw [h.columns]
    exact List.filter_sublist

/-- The checked columns of an update row by row are the updated ones and, behind them, the qualifiers. -/
theorem UpdatePlan.AcceptedRows.fields_union {request : UpdateRequest} {plan : UpdatePlan}
    (h : UpdatePlan.AcceptedRows engine request plan) (hp : ∀ f ∈ request.fields.fields, f.IsPlain) :
    (plan.updates.union plan.qualifiers).fields = plan.updates.fields ++ plan.qualifiers.fields := by
  obtain ⟨wanted, -, -, -, hqualifiers⟩ := Plan.matchFields_eq_ok_iff.mp h.qualifiers
  have hq : ∀ f ∈ plan.qualifiers.fields, f.IsPlain := by
    rw [hqualifiers]
    exact fun f hf => hp f (List.mem_of_mem_filter hf)
  have hu : ∀ f ∈ plan.updates.fields, f.IsPlain ∧ plan.qualifiers.contains f.name = false := by
    intro f hf
    obtain ⟨hrequested, hother, -⟩ := h.mem_updates.mp hf
    exact ⟨hp f hrequested, hother⟩
  have hdiff : (plan.qualifiers.diff plan.updates).fields = plan.qualifiers.fields := by
    refine List.filter_eq_self.mpr fun q hmem => ?_
    rw [Bool.not_eq_true', FieldSet.contains_eq_false_iff]
    intro u humem
    have hother := FieldSet.contains_eq_false_iff.mp (hu u humem).2 q hmem
    rw [Field.hasName_of_plain (hu u humem).1, sameName_comm] at hother
    rw [Field.hasName_of_plain (hq q hmem), hother]
  rw [FieldSet.fields_union, hdiff]

end Plans

/-! ### Requests for batches -/

namespace Request

/-- The rows that a request writes. -/
def batchRows : Request → Nat
  | insertAll request => request.rows
  | updateAll request => request.rows
  | mergeAll request => request.rows
  | _ => 1

/-- The fields that a request gives for its rows. -/
def rowFields : Request → List Field
  | insert request | insertAll request => request.fields.fields
  | merge request | mergeAll request => request.fields.fields
  | updateAll request => request.fields.fields
  | _ => []

/-- Whether the parameters of a request are those of its rows alone, each once. Keys that a dialect selects
    by their parameters are not. -/
def IsBatch (dialect : Dialect) : Request → Prop
  | insert _ | insertAll _ | merge _ | mergeAll _ => dialect ≠ .mySql
  | updateAll _ => True
  | _ => False

end Request

namespace Engine
variable {engine : Engine} {request : Request}

/-- The columns that a request binds in each of its rows: those that are written, for a merge of rows in a
    source all that are not generated, and for an update also those by which rows are matched. -/
def Binds (engine : Engine) (columns : List Field) : Request → Prop
  | .insert request => ∃ plan, InsertPlan.of engine request 1 = .ok plan ∧ columns = plan.columns.fields
  | .insertAll request =>
    ∃ plan, InsertPlan.of engine request request.rows = .ok plan ∧ columns = plan.columns.fields
  | .merge request =>
    ∃ plan, (MergePlan.of engine request 1).outcome = .ok plan ∧ columns = merged engine plan
  | .mergeAll request =>
    ∃ plan, (MergePlan.of engine request request.rows).outcome = .ok plan ∧ columns = merged engine plan
  | .updateAll request => ∃ plan, (UpdatePlan.ofRows engine request).outcome = .ok plan ∧
      columns = plan.updates.fields ++ plan.qualifiers.fields
  | _ => False
where
  merged (engine : Engine) (plan : MergePlan) : List Field :=
    match engine.dialect with
    | .sqlServer => plan.source.fields
    | _ => plan.columnsWithIdentity.fields

theorem placeholders_insertStatements (hd : engine.dialect ≠ .mySql) (plan : InsertPlan) :
    (engine.insertStatements plan).flatMap (·.placeholders engine.setting) =
      batchParameters plan.columns.fields plan.rows := by
  unfold insertStatements
  cases hdialect : engine.dialect with
  | sqlServer => exact SqlServer.placeholders_insert plan
  | postgreSql => exact PostgreSql.placeholders_insert plan
  | mySql => exact absurd hdialect hd

theorem placeholders_mergeStatements (hd : engine.dialect ≠ .mySql) (plan : MergePlan) :
    (engine.mergeStatements plan).flatMap (·.placeholders engine.setting) =
      batchParameters (Binds.merged engine plan) plan.rows := by
  unfold mergeStatements Binds.merged
  cases hdialect : engine.dialect with
  | sqlServer => exact SqlServer.placeholders_merge plan
  | postgreSql => exact PostgreSql.placeholders_merge plan
  | mySql => exact absurd hdialect hd

/-- The text has exactly the parameters of the columns in the rows, which differ by more than case and are
    not too many. -/
structure BindsRows (setting : Setting) (columns : List Field) (rows : Nat) (sql : String) : Prop where
  read : ∃ tokens, setting.marks.read sql.toList = some tokens ∧
    tokens.filterMap (·.placeholder?) = batchParameters columns rows
  distinct : ((batchParameters columns rows).map lower).Nodup
  limit : columns.length * rows ≤ setting.maxParameters

section Batches
variable {rows : Nat} {statements : List Statement} (hm : engine.setting.marks.IsStandard)
  (hl : engine.setting.maxParameters < Check.maxCount)

include hm hl

theorem bindsRows_of_checked {set : FieldSet} {columns : List Field} {perRow : Nat}
    (hproper : ProperScript statements)
    (htext : statements.flatMap (·.placeholders engine.setting) = batchParameters columns rows)
    (hc : columns.Sublist set.fields) (hle : columns.length ≤ perRow)
    (hnames : Check.parameterNames engine.setting set rows = .ok ())
    (hlimit : Check.parameterLimit engine.setting perRow rows = .ok ()) :
    BindsRows engine.setting columns rows (Statement.render engine.setting statements) where
  read := by
    obtain ⟨tokens, hread, hplaceholders⟩ := hproper.read_render hm
    exact ⟨tokens, hread, hplaceholders.trans htext⟩
  distinct := Check.nodup_batchParameters hm.2 hnames hc
  limit := (Nat.mul_le_mul_right rows hle).trans (Check.length_mul_le hl hlimit)

theorem bindsRows_insert {request : InsertRequest} {plan : InsertPlan} (hd : engine.dialect ≠ .mySql)
    (hh : request.hints = none) (h : InsertPlan.Accepted engine request rows plan) :
    BindsRows engine.setting plan.columns.fields rows
      (Statement.render engine.setting (engine.insertStatements plan)) := by
  have hrows := Check.rows_eq_ok_iff.mp h.hasRows
  refine bindsRows_of_checked hm hl (proper_insertStatements (h.hints.trans hh) (h.batch ▸ hrows)) ?_
    (.refl _) le_rfl h.names h.limit
  rw [placeholders_insertStatements hd, h.batch]

theorem bindsRows_merge {request : MergeRequest} {plan : MergePlan} (hd : engine.dialect ≠ .mySql)
    (hh : request.hints = none) (h : MergePlan.Accepted engine request rows plan) :
    BindsRows engine.setting (Binds.merged engine plan) rows
      (Statement.render engine.setting (engine.mergeStatements plan)) := by
  have hrows := Check.rows_eq_ok_iff.mp h.hasRows
  have hsublist : (Binds.merged engine plan).Sublist plan.source.fields := by
    unfold Binds.merged
    split
    · exact .refl _
    · exact h.columnsWithIdentity_sublist
  refine bindsRows_of_checked hm hl (proper_mergeStatements (h.hints.trans hh) (h.batch ▸ hrows)) ?_
    hsublist hsublist.length_le h.names h.limit
  rw [placeholders_mergeStatements hd, h.batch]

theorem bindsRows_updateAll {request : UpdateRequest} {plan : UpdatePlan}
    (hp : ∀ f ∈ request.fields.fields, f.IsPlain) (hh : request.hints = none)
    (h : UpdatePlan.AcceptedRows engine request plan) :
    BindsRows engine.setting (plan.updates.fields ++ plan.qualifiers.fields) request.rows
      (Statement.render engine.setting ((List.range plan.rows).map fun row =>
        .update plan.target plan.updates row (.matching plan.qualifiers))) := by
  have hrows := Check.rows_eq_ok_iff.mp h.hasRows
  have hunion := h.fields_union hp
  have hproper : ProperScript ((List.range plan.rows).map fun row =>
      .update plan.target plan.updates row (.matching plan.qualifiers)) := by
    rw [List.map_eq_flatMap]
    exact proper_rows (h.batch ▸ hrows) fun row => .single (h.hints.trans hh) trivial
  refine bindsRows_of_checked hm hl hproper ?_ (hunion ▸ .refl _) ?_ h.names h.limit
  · rw [List.flatMap_map, ← h.batch]
    exact List.flatMap_congr fun row _ => Statement.placeholders_update ..
  · simp [FieldSet.size]

/-- Batches are numbered without a gap and without a clash. With plain names, the text for the rows has the
    parameter of each bound column in each row, row by row and once; these parameters differ by more than
    case, and there are no more of them than the engine takes. -/
theorem parameters_of_batch (hp : ∀ f ∈ request.rowFields, f.IsPlain) (hh : request.hints = none)
    (hb : request.IsBatch engine.dialect) {sql : String} (h : (engine.build request).outcome = .ok sql) :
    ∃ columns, engine.Binds columns request ∧
      BindsRows engine.setting columns request.batchRows sql := by
  obtain ⟨statements, hstatements, rfl⟩ := build_eq_ok_iff.mp h
  cases request with
  | insert request | insertAll request =>
    obtain ⟨plan, hplan, rfl⟩ := insert_eq_ok_iff.mp hstatements
    exact ⟨_, ⟨plan, InsertPlan.of_eq_ok_iff.mpr hplan, rfl⟩, bindsRows_insert hm hl hb hh hplan⟩
  | merge request | mergeAll request =>
    obtain ⟨plan, hplan, rfl⟩ := merge_eq_ok_iff.mp hstatements
    exact ⟨_, ⟨plan, MergePlan.of_eq_ok_iff.mpr hplan, rfl⟩, bindsRows_merge hm hl hb hh hplan⟩
  | updateAll request =>
    obtain ⟨plan, hplan, rfl⟩ := updateAll_eq_ok_iff.mp hstatements
    exact ⟨_, ⟨plan, UpdatePlan.ofRows_eq_ok_iff.mpr hplan, rfl⟩, bindsRows_updateAll hm hl hp hh hplan⟩
  | _ => cases hb

end Batches

/-- Two rows of two columns. -/
theorem parameters_of_batch_insertAll :
    let engine : Engine := { dialect := .sqlServer }
    let fields : FieldSet := ⟨[{ name := "Id" }, { name := "Name" }], of_decide_eq_true rfl⟩
    let request : Request := .insertAll { table := "T", fields, columns := {}, rows := 2 }
    engine.setting.marks.IsStandard ∧ engine.setting.maxParameters < Check.maxCount ∧
      (∀ f ∈ request.rowFields, f.IsPlain) ∧ request.hints = none ∧ request.IsBatch engine.dialect ∧
      ∃ sql, (engine.build request).outcome = .ok sql ∧
        ∃ columns, engine.Binds columns request ∧ BindsRows engine.setting columns 2 sql := by
  intro engine fields request
  have hm : engine.setting.marks.IsStandard := ⟨by decide, rfl⟩
  have hl : engine.setting.maxParameters < Check.maxCount := by
    decide
  have hp : ∀ f ∈ request.rowFields, f.IsPlain := by
    decide +kernel
  have hplan : InsertPlan.Accepted engine { table := "T", fields, columns := {}, rows := 2 } 2
      { target := ⟨⟨["T"]⟩, none⟩, columns := fields, keys := [], rows := 2, writesIdentity := false } := by
    with_unfolding_all decide
  have hstatements : (engine.statements request).outcome = .ok _ := insert_eq_ok_iff.mpr ⟨_, hplan, rfl⟩
  have hbuild := build_eq_ok_iff.mpr ⟨_, hstatements, rfl⟩
  have hd : request.IsBatch engine.dialect := by
    simp [request, engine, Request.IsBatch]
  exact ⟨hm, hl, hp, rfl, hd, _, hbuild, parameters_of_batch hm hl hp rfl hd hbuild⟩

end Engine

end CrudSql

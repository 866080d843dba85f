import CrudSql.Proofs.Batch
import CrudSql.Proofs.Write

/-! The parameters of MySQL batches. Each row has an insert and a query of its keys. What is assigned to a
    row that is already there is a value of the same insert; a key is one only if the table spells it in the
    same way as the caller, up to the characters that parameters cannot have. -/

namespace CrudSql

/-! ### Rows -/

section Rows
variable {engine : Engine} {rows : Nat}

/-- The updated columns of a merge are written in a new row too. -/
theorem MergePlan.Accepted.updates_subset {request : MergeRequest} {plan : MergePlan}
    (h : MergePlan.Accepted engine request rows plan) :
    ∀ f ∈ plan.updates.fields, f ∈ plan.columnsWithIdentity.fields := by
  intro f hf
  obtain ⟨hsource, -, hidentity, -⟩ := h.mem_updates.mp hf
  unfold MergePlan.columnsWithIdentity
  split
  · exact hsource
  · exact h.mem_columns.mpr ⟨hsource, Or.inr hidentity⟩

/-- The parameters that are assigned to a row that is already there are those of the updated columns. -/
theorem MySql.placeholders_assignments (plan : MergePlan) (row : Nat) :
    (MySql.assignments plan row).filterMap (·.placeholder?) = rowParameters plan.updates.fields row := by
  have hupdates : (plan.updates.fields.map fun field => Assignment.parameter field row).filterMap
      (·.placeholder?) = rowParameters plan.updates.fields row := by
    rw [List.filterMap_map, rowParameters]
    exact congrFun List.filterMap_eq_map plan.updates.fields
  obtain ⟨identity, hitself, hassignments⟩ := MySql.assignments_eq plan row
  have hidentity : identity.filterMap (·.placeholder?) = [] := by
    refine List.filterMap_eq_nil_iff.mpr fun assigned hassigned => ?_
    obtain ⟨field, -, -, rfl⟩ := hitself assigned hassigned
    rfl
  rw [hassignments]
  dsimp only
  split
  · rename_i hempty
    have hnone : plan.updates.fields = [] := by
      simpa using (List.append_eq_nil_iff.mp (List.isEmpty_iff.mp hempty)).2
    rw [hnone, List.filterMap_map]
    exact List.filterMap_eq_nil_iff.mpr fun _ _ => rfl
  · rw [List.filterMap_append, hidentity, hupdates, List.nil_append]

/-- A key that is a parameter names the parameter of a written column. -/
def KeyColumn.IsBound (columns : List Field) (key : KeyColumn) : Prop :=
  key.source = .supplied ∨ key.source = .suppliedOrIdentity →
    ∃ field ∈ columns, parameterBase field.name = parameterBase key.field.name

theorem KeyColumn.isBound_iff {columns : List Field} {key : KeyColumn} (row : Nat) :
    key.IsBound columns ↔ ∀ p ∈ key.placeholder? row, p ∈ rowParameters columns row := by
  have hmem : rowParameter key.field.name row ∈ rowParameters columns row ↔
      ∃ field ∈ columns, parameterBase field.name = parameterBase key.field.name := by
    simp only [rowParameters, List.mem_map, rowParameter_inj]
  unfold IsBound placeholder?
  cases key.source <;> simp [hmem]

/-- The keys of a row are all among its values exactly if they are bound, whichever row it is. -/
theorem MySql.keys_subset_iff {columns : List Field} {keys : List KeyColumn} (row : Nat) :
    (∀ p ∈ keys.filterMap (·.placeholder? row), p ∈ rowParameters columns row) ↔
      ∀ key ∈ keys, key.IsBound columns := by
  simp only [List.mem_filterMap, KeyColumn.isBound_iff row]
  exact ⟨fun h key hkey p hp => h p ⟨key, hkey, hp⟩, fun h p ⟨key, hkey, hp⟩ => h key hkey p hp⟩

/-! ### Spelling -/

/-- The caller spells a column as the table does, up to the characters that parameters cannot have. -/
def SpelledAlike (fields : FieldSet) (columns : Columns) : Prop :=
  ∀ column ∈ columns.columns, ∀ key, column.field = .ok key →
    ∀ field ∈ fields.fields, field.hasName key.name = true → parameterBase field.name = parameterBase key.name

/-- A key that is supplied is bound where it is spelled alike. -/
theorem SpelledAlike.bound {fields written : FieldSet} {columns : Columns} {column : Column} {key : Field}
    (h : SpelledAlike fields columns) (hw : ∀ f ∈ written.fields, f ∈ fields.fields)
    (hc : column ∈ columns.columns) (hk : column.field = .ok key) (hs : written.contains key.name = true) :
    ∃ field ∈ written.fields, parameterBase field.name = parameterBase key.name := by
  obtain ⟨field, hfield, hname⟩ := FieldSet.contains_iff.mp hs
  exact ⟨field, hfield, h column hc key hk field (hw field hfield) hname⟩

theorem InsertPlan.Accepted.bound_of_spelledAlike {request : InsertRequest} {plan : InsertPlan}
    (h : InsertPlan.Accepted engine request rows plan) (hs : SpelledAlike request.fields request.columns) :
    ∀ key ∈ plan.keys, key.IsBound plan.columns.fields := by
  have hwritten : ∀ f ∈ plan.columns.fields, f ∈ request.fields.fields := by
    rw [h.columns]
    exact fun f hf => List.mem_of_mem_filter hf
  rintro key hkey hsource
  obtain ⟨column, hcolumn, hfield, hcases⟩ := Plan.mem_reportedKeys h.keys key hkey
  rcases hcases with ⟨-, hcontains⟩ | ⟨hother, -⟩ | hother
  · exact hs.bound hwritten hcolumn hfield hcontains
  · simp [hother] at hsource
  · simp [hother] at hsource

theorem MergePlan.Accepted.bound_of_spelledAlike {request : MergeRequest} {plan : MergePlan}
    (h : MergePlan.Accepted engine request rows plan) (hs : SpelledAlike request.fields request.columns) :
    ∀ key ∈ plan.keys, key.IsBound plan.columnsWithIdentity.fields := by
  have hsource : ∀ f ∈ plan.source.fields, f ∈ request.fields.fields := by
    rw [h.source]
    exact fun f hf => List.mem_of_mem_filter hf
  have hcolumns : ∀ f ∈ plan.columns.fields, f ∈ plan.source.fields := by
    rw [h.columns]
    exact fun f hf => List.mem_of_mem_filter hf
  obtain ⟨given, hgiven, hkeys⟩ := h.keys
  rw [hkeys]
  rintro reported hreported hparameter
  obtain ⟨key, hkey, rfl⟩ := List.mem_map.mp hreported
  obtain ⟨column, hcolumn, hfield, hcases⟩ := Plan.mem_reportedKeys hgiven key hkey
  rcases hcases with ⟨hsupplied, hcontains⟩ | ⟨hidentity, hidentity?⟩ | hserver
  · obtain ⟨field, hmem, hname⟩ := hs.bound (fun f hf => hsource f (hcolumns f hf)) hcolumn hfield hcontains
    refine ⟨field, ?_, by simpa [MergePlan.reported, hsupplied] using hname⟩
    unfold MergePlan.columnsWithIdentity
    split
    · exact hcolumns field hmem
    · exact hmem
  · -- The server's number is a parameter too only where the rows are matched by the identity.
    have hplan : plan.identity = some key.field := by
      have := h.identity
      rw [hidentity?, Option.mapM_some, hfield] at this
      exact (Except.ok.inj this).symm
    cases hqualifies : plan.identityQualifies with
    | false => simp [MergePlan.reported, hidentity, hqualifies] at hparameter
    | true =>
      have hcontains : plan.qualifiers.contains key.field.name = true := by
        simpa [MergePlan.identityQualifies, hplan] using hqualifies
      obtain ⟨field, hmem, hname⟩ :=
        hs.bound (fun f hf => hsource f (h.qualifiers_subset hf)) hcolumn hfield hcontains
      refine ⟨field, ?_, by simpa [MergePlan.reported, hidentity] using hname⟩
      rw [MergePlan.columnsWithIdentity, if_pos hqualifies]
      exact h.qualifiers_subset hmem
  · simp [MergePlan.reported, hserver] at hparameter

end Rows

namespace MySql

/-- The statements for the rows of a batch: for each an insert of its values, and a query of its keys. -/
def batch (inserts : Nat → Insert) (keys : List KeyColumn) (rows : Nat) : List Statement :=
  (List.range rows).flatMap fun row => [.insert (inserts row), .selectKeys keys row (1 < rows)]

variable {inserts : Nat → Insert} {keys : List KeyColumn} {rows : Nat}

theorem proper_batch (h : rows ≠ 0) (hh : ∀ row, (inserts row).target.hints = none) :
    ProperScript (batch inserts keys rows) :=
  Engine.proper_rows h fun row =>
    ProperScript.append (a := [_]) (.single (hh row) trivial) (by simp [Statement.Proper])

theorem placeholders_batch (setting : Setting) {columns : List Field}
    (hc : ∀ row, (inserts row).columns.fields = columns) (hs : ∀ row, (inserts row).source = .rows [row]) :
    (batch inserts keys rows).flatMap (·.placeholders setting) = (List.range rows).flatMap fun row =>
      rowParameters columns row ++ (inserts row).conflict.placeholders ++ keys.filterMap (·.placeholder? row) := by
  rw [batch, List.flatMap_assoc]
  refine List.flatMap_congr fun row _ => ?_
  simp [hc, hs]

end MySql

namespace Request

/-- Requests that write rows and report their keys. -/
def ReportsKeys : Request → Prop
  | insert _ | insertAll _ | merge _ | mergeAll _ => True
  | _ => False

/-- The columns that are reported as keys are spelled by the caller as by the table. -/
def IsSpelledAlike : Request → Prop
  | insert request | insertAll request => SpelledAlike request.fields request.columns
  | merge request | mergeAll request => SpelledAlike request.fields request.columns
  | _ => True

end Request

namespace Engine
variable {engine : Engine} {request : Request}

/-- The inserts of a batch write the same columns, each from the parameters of its own row, and assign to a
    row that is already there only what they write. -/
structure WritesRows (inserts : Nat → Insert) (columns : List Field) : Prop where
  hints : ∀ row, (inserts row).target.hints = none
  written : ∀ row, (inserts row).columns.fields = columns
  source : ∀ row, (inserts row).source = .rows [row]
  assigned : ∀ row, ∀ p ∈ (inserts row).conflict.placeholders, p ∈ rowParameters columns row

theorem mySql_statements (hd : engine.dialect = .mySql) (hr : request.ReportsKeys) {statements : List Statement}
    (h : (engine.statements request).outcome = .ok statements) : request.batchRows ≠ 0 ∧
      ∃ inserts columns keys, statements = MySql.batch inserts keys request.batchRows ∧
        WritesRows inserts columns ∧ (request.IsSpelledAlike → ∀ key ∈ keys, key.IsBound columns) := by
  cases request with
  | insert request | insertAll request =>
    obtain ⟨plan, hplan, rfl⟩ := insert_eq_ok_iff.mp h
    refine ⟨Check.rows_eq_ok_iff.mp hplan.hasRows,
      fun row => { target := ⟨plan.target.table, none⟩, columns := plan.columns, source := .rows [row] },
      plan.columns.fields, plan.keys, ?_, ?_, hplan.bound_of_spelledAlike⟩
    · rw [insertStatements, hd]
      exact congrArg (MySql.batch _ plan.keys) hplan.batch
    · exact ⟨fun _ => rfl, fun _ => rfl, fun _ => rfl, fun row p hp => by cases hp⟩
  | merge request | mergeAll request =>
    obtain ⟨plan, hplan, rfl⟩ := merge_eq_ok_iff.mp h
    refine ⟨Check.rows_eq_ok_iff.mp hplan.hasRows,
      fun row => {
        target := ⟨plan.target.table, none⟩
        columns := plan.columnsWithIdentity
        source := .rows [row]
        conflict := .onDuplicateKey (MySql.assignments plan row) },
      plan.columnsWithIdentity.fields, plan.keys, ?_, ?_, hplan.bound_of_spelledAlike⟩
    · rw [mergeStatements, hd]
      exact congrArg (MySql.batch _ plan.keys) hplan.batch
    · refine ⟨fun _ => rfl, fun _ => rfl, fun _ => rfl, fun row p hp => ?_⟩
      rw [Conflict.placeholders, MySql.placeholders_assignments] at hp
      obtain ⟨field, hfield, rfl⟩ := List.mem_map.mp hp
      exact List.mem_map_of_mem (hplan.updates_subset field hfield)
  | _ => cases hr

/-- What a row of a MySQL batch uses. The text has, row by row, the values of the row, the parameters that
    are assigned if the row is there already, and those of its keys. All that is assigned is among the values
    of the row. The keys are among them, in any row, exactly if each key that is a parameter suggests the same
    name as a written column; so they are where the caller spells columns as the table does. -/
theorem parameters_of_mySql_rows (hd : engine.dialect = .mySql) (hm : engine.setting.marks.IsStandard)
    (hr : request.ReportsKeys) {sql : String} (h : (engine.build request).outcome = .ok sql) :
    ∃ inserts columns keys,
      (engine.statements request).outcome = .ok (MySql.batch inserts keys request.batchRows) ∧
      WritesRows inserts columns ∧
      (∃ tokens, engine.setting.marks.read sql.toList = some tokens ∧
        tokens.filterMap (·.placeholder?) = (List.range request.batchRows).flatMap fun row =>
          rowParameters columns row ++ (inserts row).conflict.placeholders ++
            keys.filterMap (·.placeholder? row)) ∧
      (∀ row, (∀ p ∈ keys.filterMap (·.placeholder? row), p ∈ rowParameters columns row) ↔
        ∀ key ∈ keys, key.IsBound columns) ∧
      (request.IsSpelledAlike → ∀ key ∈ keys, key.IsBound columns) := by
  obtain ⟨statements, hstatements, rfl⟩ := build_eq_ok_iff.mp h
  obtain ⟨hrows, inserts, columns, keys, rfl, hwrites, hspelled⟩ := mySql_statements hd hr hstatements
  obtain ⟨tokens, hread, hparameters⟩ := (MySql.proper_batch hrows hwrites.hints).read_render hm
  refine ⟨inserts, columns, keys, hstatements, hwrites, ⟨tokens, hread, ?_⟩, MySql.keys_subset_iff, hspelled⟩
  rw [hparameters, MySql.placeholders_batch engine.setting hwrites.written hwrites.source]

/-- Two rows that are matched by their identity, which may be given or left to the server. -/
theorem parameters_of_mySql_rows_matched :
    let engine : Engine := { dialect := .mySql }
    let fields : FieldSet := ⟨[{ name := "Id" }, { name := "Name" }], of_decide_eq_true rfl⟩
    let columns : Columns := ⟨[{ name := "Id", isPrimary := true, isIdentity := true }]⟩
    let request : Request := .mergeAll { table := "T", fields, columns, rows := 2 }
    engine.dialect = .mySql ∧ engine.setting.marks.IsStandard ∧ request.ReportsKeys ∧
      ∃ sql, (engine.build request).outcome = .ok sql ∧
        ∃ inserts columns keys, (engine.statements request).outcome = .ok (MySql.batch inserts keys 2) ∧
          WritesRows inserts columns ∧
          ∀ row, (∀ p ∈ keys.filterMap (·.placeholder? row), p ∈ rowParameters columns row) ↔
            ∀ key ∈ keys, key.IsBound columns := by
  intro engine fields columns request
  have hm : engine.setting.marks.IsStandard := ⟨by decide, rfl⟩
  have hr : request.ReportsKeys := trivial
  have hplan := MergePlan.accepted_numbered .mySql
  have hstatements : (engine.statements request).outcome = .ok _ := merge_eq_ok_iff.mpr ⟨_, hplan, rfl⟩
  have hbuild := build_eq_ok_iff.mpr ⟨_, hstatements, rfl⟩
  obtain ⟨inserts, columns, keys, hbatch, hwrites, -, hkeys, -⟩ := parameters_of_mySql_rows rfl hm hr hbuild
  exact ⟨rfl, hm, hr, _, hbuild, inserts, columns, keys, hbatch, hwrites, hkeys⟩

/-- A key that the table spells in another way than the caller is a parameter that no row has a value for. -/
theorem mySql_key_misspelled :
    let engine : Engine := { dialect := .mySql }
    let fields : FieldSet := ⟨[{ name := "code" }, { name := "Name" }], of_decide_eq_true rfl⟩
    let request : Request :=
      .insert { table := "Country", fields, columns := ⟨[{ name := "Code", isPrimary := true }]⟩ }
    let sql := "INSERT INTO `Country` (`code`, `Name`) VALUES (@code, @Name); SELECT @Code AS `Code`;"
    (engine.build request).outcome = .ok sql ∧
      (engine.setting.marks.read sql.toList).map (·.filterMap (·.placeholder?)) =
        some (rowParameters fields.fields 0 ++ ["Code"]) ∧
      "Code" ∉ rowParameters fields.fields 0 := by
  intro engine fields request sql
  have hplan : InsertPlan.Accepted engine
      { table := "Country", fields, columns := ⟨[{ name := "Code", isPrimary := true }]⟩ } 1
      { target := ⟨⟨["Country"]⟩, none⟩, columns := fields, keys := [⟨{ name := "Code" }, .supplied⟩],
        rows := 1, writesIdentity := false } := by
    with_unfolding_all decide
  have hstatements : (engine.statements request).outcome = .ok _ := insert_eq_ok_iff.mpr ⟨_, hplan, rfl⟩
  refine ⟨build_eq_ok_iff.mpr ⟨_, hstatements, ?_⟩, ?_, ?_⟩
  · decide +kernel
  · decide +kernel
  · decide +kernel

end Engine

end CrudSql

import CrudSql.Proofs.Identity
import CrudSql.Proofs.Reported.Clause
import CrudSql.Proofs.Reported.Columns

/-! The keys that are reported of inserted and merged rows. Each dialect lists the reported columns of the table
    in a clause of its own, and leaves the clause out if there are none. What stands behind the table of a
    statement is read token by token; the hints in front of it are text of the caller. -/

namespace CrudSql
open Sql Plan

/-! ### Statements -/

namespace Statement
variable {setting : Setting} {s : Statement}

/-- An insert or a merge up to its table, with its hints. -/
def front : Statement → Sql
  | insert i => i.front
  | merge m => m.front
  | _ => []

/-- An insert or a merge behind its table, and any other statement. -/
def behind (setting : Setting) : Statement → Sql
  | insert i => i.body
  | merge m => m.body
  | s => s.sql setting

/-- The text of a statement reports items under a keyword. Behind the table, its tokens have one clause with
    the items, or none if there are no items. -/
structure Reports (setting : Setting) (keyword : String) (items others : List (List Token)) (s : Statement) :
    Prop where
  text : render setting [s] = Sql.opening setting s.front ++ Sql.render setting (s.behind setting)
  read : setting.marks.IsReadable →
    setting.marks.read (Sql.render setting (s.behind setting)).toList = some (s.behind setting).tokens
  clause : HasClause keyword items others (s.behind setting).tokens

variable {keyword : String} {items others : List (List Token)}

theorem reports_insert {i : Insert} (h : HasClause keyword items others i.body.tokens) :
    (insert i).Reports setting keyword items others where
  text := render_insert i
  read hm := i.sound_body.read_render hm
  clause := h

theorem reports_merge {m : Merge} (h : HasClause keyword items others m.body.tokens) :
    (merge m).Reports setting keyword items others where
  text := render_merge m
  read hm := m.sound_body.read_render hm
  clause := h

/-- A statement without a table is read as a whole. -/
theorem reports_of_proper (hp : s.Proper) (hfront : s.front = []) (hbehind : s.behind setting = s.sql setting)
    (h : HasClause keyword items others (s.sql setting).tokens) : s.Reports setting keyword items others where
  text := by
    rw [render, List.flatMap_singleton, hfront, hbehind]
    exact String.empty_append.symm
  read hm := by
    have hread := read_proper hm hp
    rwa [render, List.flatMap_singleton, ← hbehind] at hread
  clause := by rwa [hbehind]

theorem reports_selectKeys {keys : List KeyColumn} {row : Nat} {isNumbered : Bool}
    (h : HasClause keyword items others ((selectKeys keys row isNumbered).sql setting).tokens) :
    (selectKeys keys row isNumbered).Reports setting keyword items others :=
  reports_of_proper trivial rfl rfl h

theorem reports_identityInsert (setting : Setting) (table : Ident) (on : Bool) :
    (identityInsert table on).Reports setting "OUTPUT" [] [] := by
  have hproper : (identityInsert table on).Proper := trivial
  have hsound : ((identityInsert table on).sql setting).Sound := hproper.script.sound
  have hsays : ¬((identityInsert table on).sql setting).Says "OUTPUT" := by
    cases on <;> simp [sql]
  exact reports_of_proper hproper rfl rfl (.of_not_mem (not_mem_tokens_of_unsaid (by simp) hsound hsays))

end Statement

/-! ### Dialects -/

namespace SqlServer
variable {setting : Setting} {keyNames : List String} {statements : List Statement}

/-- A statement reports these columns of the rows that it writes, perhaps with the number of the row. -/
def Outputs (setting : Setting) (keyNames : List String) (s : Statement) : Prop :=
  ∃ others, (others = [] ∨ others = [outputNumber]) ∧
    s.Reports setting "OUTPUT" (keyNames.map outputItem) others

/-- Each statement that writes rows reports these columns of them, and no other statement reports anything. -/
structure ListsKeys (setting : Setting) (keyNames : List String) (statements : List Statement) : Prop where
  written : ∃ s ∈ statements, s.IsWrite
  reports : ∀ s ∈ statements, s.IsWrite → Outputs setting keyNames s
  silent : ∀ s ∈ statements, ¬s.IsWrite → s.Reports setting "OUTPUT" [] []

theorem listsKeys_withIdentity (hne : statements ≠ [])
    (h : ∀ s ∈ statements, s.IsWrite ∧ Outputs setting keyNames s) (table : Ident) (writesIdentity : Bool) :
    ListsKeys setting keyNames (withIdentity table writesIdentity statements) where
  written := by
    obtain ⟨s, hs⟩ := List.exists_mem_of_ne_nil _ hne
    exact ⟨s, Engine.SqlServer.mem_withIdentity_of_mem hs, (h s hs).1⟩
  reports s hs hwrite := by
    rcases Engine.SqlServer.mem_withIdentity hs with hs | ⟨on, rfl⟩
    · exact (h s hs).2
    · cases hwrite
  silent s hs hother := by
    rcases Engine.SqlServer.mem_withIdentity hs with hs | ⟨on, rfl⟩
    · exact absurd (h s hs).1 hother
    · exact Statement.reports_identityInsert setting table on

theorem outputs_insert {insert : Insert} {keys : List KeyColumn} (ho : insert.output = keys)
    (hf : insert.conflict = .fail) (hr : insert.returning = {}) :
    Outputs setting (keys.map (·.field.name)) (.insert insert) := by
  subst ho
  exact ⟨[], Or.inl rfl, Statement.reports_insert (Insert.hasClause_output hf hr)⟩

theorem outputs_merge {merge : Merge} {keys : List KeyColumn} (ho : merge.output = keys) :
    Outputs setting (keys.map (·.field.name)) (.merge merge) := by
  subst ho
  refine ⟨_, ?_, Statement.reports_merge merge.hasClause_output⟩
  split
  · exact Or.inr rfl
  · exact Or.inl rfl

theorem outputs_insertStatements {options : Options} {plan : InsertPlan} :
    ∀ s ∈ insertStatements options plan,
      s.IsWrite ∧ Outputs setting (plan.keys.map (·.field.name)) s := by
  intro s hs
  unfold insertStatements at hs
  split at hs
  · rw [List.eq_of_mem_replicate hs]
    exact ⟨trivial, outputs_insert rfl rfl rfl⟩
  · split at hs
    · rw [List.mem_singleton.mp hs]
      exact ⟨trivial, outputs_merge rfl⟩
    · rw [List.mem_singleton.mp hs]
      exact ⟨trivial, outputs_insert rfl rfl rfl⟩

end SqlServer

namespace PostgreSql

/-- The statement for each row returns these columns, with the number of the row if there are several. -/
structure ListsKeys (setting : Setting) (keyNames : List String) (rows : Nat) (statements : List Statement) :
    Prop where
  count : statements.length = rows
  reports : ∀ (row : Nat) (s : Statement), statements[row]? = some s → s.IsWrite ∧ s.Reports setting "RETURNING"
    (keyNames.map fun name => [.name name]) (if 1 < rows then [numbered row] else [])

theorem listsKeys_map {setting : Setting} {keyNames : List String} {rows : Nat} {inserts : Nat → Insert}
    (ht : ∀ row, (inserts row).target.hints = none) {keys : List KeyColumn}
    (hkeys : keys.map (·.field.name) = keyNames)
    (hr : ∀ row, (inserts row).returning = returned keys rows row) :
    ListsKeys setting keyNames rows ((List.range rows).map fun row => .insert (inserts row)) where
  count := by rw [List.length_map, List.length_range]
  reports row s hs := by
    rw [List.getElem?_map, Option.map_eq_some_iff] at hs
    obtain ⟨row', hrow, rfl⟩ := hs
    obtain ⟨hlt, rfl⟩ := List.getElem?_eq_some_iff.mp hrow
    rw [List.getElem_range]
    refine ⟨trivial, Statement.reports_insert ?_⟩
    have hclause := Insert.hasClause_returning (ht row)
    rw [hr, returned, hkeys] at hclause
    split
    · rename_i hseveral
      rwa [if_pos hseveral] at hclause
    · rename_i hsingle
      rwa [if_neg hsingle] at hclause

end PostgreSql

namespace MySql

/-- Behind the insert of each row stands the query of its keys, with the number of the row if there are several.
    It selects the reported columns but for those of which the insert writes no value and the server gives no
    number; each of these has a default or is generated. -/
structure ListsKeys (setting : Setting) (table : Columns) (rows : Nat) (inserts : Nat → Insert)
    (keys : List KeyColumn) (written : FieldSet) : Prop where
  columns : ∀ row, (inserts row).columns = written
  silent : ∀ row, (Statement.insert (inserts row)).Reports setting "SELECT" [] []
  reports : ∀ row, ∃ items,
    List.Forall₂ (fun column item => ∃ key : KeyColumn, key.field.name = column.name ∧
      key.selectTokens? row = some item) (table.selected written) items ∧
    (Statement.selectKeys keys row (1 < rows)).Reports setting "SELECT" items
      (if 1 < rows then [numbered row] else [])
  filled : ∀ column ∈ table.reported, column ∉ table.selected written →
    table.identity? = none ∧ (column.hasDefault = true ∨ column.isGenerated = true)

theorem reports_selectKeys_batch {setting : Setting} {table : Columns} {keys : List KeyColumn} {written : FieldSet}
    (hp : ∀ column ∈ table.columns, Field.IsPlain { name := column.name })
    (h : List.Forall₂ (KeyColumn.IsOf table written) table.reported keys) (rows row : Nat) : ∃ items,
      List.Forall₂ (fun column item => ∃ key : KeyColumn, key.field.name = column.name ∧
        key.selectTokens? row = some item) (table.selected written) items ∧
      (Statement.selectKeys keys row (1 < rows)).Reports setting "SELECT" items
        (if 1 < rows then [numbered row] else []) := by
  refine ⟨_, Columns.forall₂_selected hp h row, Statement.reports_selectKeys ?_⟩
  have hclause := hasClause_selectKeys setting keys row (1 < rows)
  simpa only [decide_eq_true_eq] using hclause

end MySql

namespace Engine
variable {engine : Engine} {request : Request} {rows : Nat}

/-- The statements of a dialect report the identity of the table or else its primary key. -/
def ListsKeys (engine : Engine) (table : Columns) (rows : Nat) (statements : List Statement) : Prop :=
  match engine.dialect with
  | .sqlServer => SqlServer.ListsKeys engine.setting (table.reported.map (·.name)) statements
  | .postgreSql => PostgreSql.ListsKeys engine.setting (table.reported.map (·.name)) rows statements
  | .mySql => ∃ inserts keys written, statements = MySql.batch inserts keys rows ∧
    MySql.ListsKeys engine.setting table rows inserts keys written

theorem listsKeys_insert {request : InsertRequest} {plan : InsertPlan} (hp : request.write.IsPlain)
    (h : InsertPlan.Accepted engine request rows plan) :
    engine.ListsKeys request.columns rows (engine.insertStatements plan) := by
  have hkeys : List.Forall₂ (KeyColumn.IsOf request.columns plan.columns) request.columns.reported plan.keys :=
    isOf_reportedKeys hp.columns h.keys
  have hnames := KeyColumn.map_name_of_isOf hkeys
  have hrows : plan.rows ≠ 0 := h.batch ▸ Check.rows_eq_ok_iff.mp h.hasRows
  unfold ListsKeys insertStatements
  cases engine.dialect with
  | sqlServer =>
    rw [← hnames]
    exact SqlServer.listsKeys_withIdentity (insertStatements_ne_nil hrows) SqlServer.outputs_insertStatements _ _
  | postgreSql =>
    rw [← h.batch]
    exact PostgreSql.listsKeys_map (fun _ => rfl) hnames fun _ => rfl
  | mySql =>
    refine ⟨fun row => { target := ⟨plan.target.table, none⟩, columns := plan.columns, source := .rows [row] },
      plan.keys, plan.columns, congrArg (MySql.batch _ plan.keys) h.batch, fun _ => rfl, fun row => ?_,
      MySql.reports_selectKeys_batch hp.columns hkeys rows, ?_⟩
    · exact Statement.reports_insert (Insert.hasClause_select rfl rfl)
    · refine Columns.filled_of_not_selected hp.distinct hp.columns h.primaries ?_
      intro field hfield hgenerated hidentity
      exact h.mem_columns.mpr ⟨hfield, hgenerated, Or.inr hidentity⟩

theorem listsKeys_merge {request : MergeRequest} {plan : MergePlan} (hp : request.write.IsPlain)
    (h : MergePlan.Accepted engine request rows plan) :
    engine.ListsKeys request.columns rows (engine.mergeStatements plan) := by
  obtain ⟨given, hgiven, hreported⟩ := h.keys
  have hkeys : List.Forall₂ (KeyColumn.IsOf request.columns plan.columns) request.columns.reported plan.keys :=
    hreported ▸ MergePlan.isOf_reported _ (isOf_reportedKeys hp.columns hgiven)
  have hnames := KeyColumn.map_name_of_isOf hkeys
  unfold ListsKeys mergeStatements
  cases engine.dialect with
  | sqlServer =>
    rw [← hnames]
    refine SqlServer.listsKeys_withIdentity (List.cons_ne_nil _ _) (fun s hs => ?_) _ _
    rw [List.mem_singleton.mp hs]
    exact ⟨trivial, SqlServer.outputs_merge rfl⟩
  | postgreSql =>
    rw [← h.batch]
    exact PostgreSql.listsKeys_map (fun _ => rfl) hnames fun _ => rfl
  | mySql =>
    refine ⟨fun row => {
        target := ⟨plan.target.table, none⟩
        columns := plan.columnsWithIdentity
        source := .rows [row]
        conflict := .onDuplicateKey (MySql.assignments plan row) },
      plan.keys, plan.columnsWithIdentity, congrArg (MySql.batch _ plan.keys) h.batch, fun _ => rfl, fun row => ?_,
      ?_, ?_⟩
    · exact Statement.reports_insert (Insert.hasClause_select rfl rfl)
    · rw [h.selected_columnsWithIdentity]
      exact MySql.reports_selectKeys_batch hp.columns hkeys rows
    · rw [h.selected_columnsWithIdentity]
      refine Columns.filled_of_not_selected hp.distinct hp.columns h.primaries ?_
      intro field hfield hgenerated hidentity
      exact h.mem_columns.mpr ⟨h.mem_source.mpr ⟨hfield, hgenerated⟩, Or.inr hidentity⟩

/-- The keys that are reported of written rows, with plain names of the fields and of the columns and no two
    columns of one name. They are the table's first identity column if it has one and otherwise its primary key,
    in the order of the table. What SQL Server puts out and PostgreSQL returns of each statement for rows are
    these, with the number of the row at most behind them, and there is nothing of the kind where there are
    none. MySQL selects them behind each row, but for the parts of a primary key that are not written; the
    server has a default for each of those or generates it. -/
theorem listsKeys_of_build (hr : request.ReportsKeys) {write : Write} (hw : request.write? = some write)
    (hp : write.IsPlain) {sql : String} (h : (engine.build request).outcome = .ok sql) :
    ∃ statements, (engine.statements request).outcome = .ok statements ∧
      sql = " ".intercalate ((statements.map fun s => Statement.render engine.setting [s]).filter (· ≠ "")) ∧
      engine.ListsKeys write.columns request.batchRows statements := by
  obtain ⟨statements, hstatements, rfl⟩ := build_eq_ok_iff.mp h
  refine ⟨statements, hstatements, Statement.render_eq_intercalate_filter statements, ?_⟩
  cases request with
  | insert request | insertAll request =>
    cases hw
    obtain ⟨plan, hplan, rfl⟩ := insert_eq_ok_iff.mp hstatements
    exact listsKeys_insert hp hplan
  | merge request | mergeAll request =>
    cases hw
    obtain ⟨plan, hplan, rfl⟩ := merge_eq_ok_iff.mp hstatements
    exact listsKeys_merge hp hplan
  | _ => cases hr

/-- Rows of a table with two parts in its primary key, one of which the server fills. -/
theorem listsKeys_of_build_defaulted :
    let engine : Engine := { dialect := .mySql }
    let fields : FieldSet := ⟨[{ name := "A" }, { name := "Name" }], of_decide_eq_true rfl⟩
    let columns : Columns :=
      ⟨[{ name := "A", isPrimary := true }, { name := "B", isPrimary := true, hasDefault := true }]⟩
    let insert : InsertRequest := { table := "T", fields, columns, rows := 2 }
    (Request.insertAll insert).ReportsKeys ∧ (Request.insertAll insert).write? = some insert.write ∧
      insert.write.IsPlain ∧ ∃ sql, (engine.build (.insertAll insert)).outcome = .ok sql ∧
        ∃ statements, (engine.statements (.insertAll insert)).outcome = .ok statements ∧
          engine.ListsKeys columns 2 statements := by
  intro engine fields columns insert
  have hp : insert.write.IsPlain := by
    decide
  have hplan : InsertPlan.Accepted engine insert 2 {
      target := ⟨⟨["T"]⟩, none⟩
      columns := fields
      keys := [⟨{ name := "A" }, .supplied⟩, ⟨{ name := "B" }, .server⟩]
      rows := 2
      writesIdentity := false } := by
    with_unfolding_all decide
  have hstatements : (engine.statements (.insertAll insert)).outcome = .ok _ :=
    insert_eq_ok_iff.mpr ⟨_, hplan, rfl⟩
  have hbuild := build_eq_ok_iff.mpr ⟨_, hstatements, rfl⟩
  have hr : (Request.insertAll insert).ReportsKeys := trivial
  obtain ⟨statements, hsame, -, hlists⟩ := listsKeys_of_build hr rfl hp hbuild
  exact ⟨hr, rfl, hp, _, hbuild, statements, hsame, hlists⟩

end Engine

end CrudSql

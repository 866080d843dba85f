import CrudSql.Proofs.MySql
import CrudSql.Proofs.Statement.Rows
import CrudSql.Proofs.Statement.Texts

/-! Reported keys find their rows. In a batch of several rows the keys of each row come with its number: where
    rows have statements of their own the number is written in the last of them, and where one merge writes
    them all it goes through the source. -/

namespace CrudSql
open Sql Plan
open Token (listed tuple names number)

/-! ### Reported columns -/

/-- The columns that are reported as keys: the identity or, without one, the primary key. -/
def Columns.reported (table : Columns) : List Column :=
  match table.identity? with
  | some identity => [identity]
  | none => table.primaries

theorem Plan.fields_reportedKeys {table : Columns} {written : FieldSet} {keys : List KeyColumn}
    (h : reportedKeys table written = .ok keys) :
    table.reported.mapM (·.field) = .ok (keys.map (·.field)) := by
  unfold reportedKeys at h
  unfold Columns.reported
  cases hidentity : table.identity? with
  | some identity =>
    simp only [hidentity, bind_eq_ok, pure_eq_ok] at h
    obtain ⟨field, hfield, rfl⟩ := h
    simp only [List.mapM_cons, List.mapM_nil, bind_eq_ok, pure_eq_ok]
    exact ⟨field, hfield, [], rfl, rfl⟩
  | none =>
    simp only [hidentity] at h
    generalize table.primaries = columns at h ⊢
    induction columns generalizing keys with
    | nil =>
      cases h
      rfl
    | cons column columns ih =>
      simp only [List.mapM_cons, bind_eq_ok, pure_eq_ok] at h ⊢
      obtain ⟨key, ⟨field, hfield, rfl⟩, rest, hrest, rfl⟩ := h
      exact ⟨field, hfield, _, ih hrest, rfl⟩

theorem Plan.reportedKeys_ne_nil {table : Columns} {written : FieldSet} {keys : List KeyColumn}
    (h : reportedKeys table written = .ok keys) (hne : table.reported ≠ []) : keys ≠ [] := by
  rintro rfl
  obtain ⟨column, columns, hreported⟩ := List.exists_cons_of_ne_nil hne
  have hfields := fields_reportedKeys h
  rw [hreported] at hfields
  simp only [List.mapM_cons, bind_eq_ok, pure_eq_ok] at hfields
  obtain ⟨field, -, fields, -, ⟨⟩⟩ := hfields

theorem MergePlan.map_reported (identityQualifies : Bool) (keys : List KeyColumn) :
    (keys.map (reported identityQualifies)).map (·.field) = keys.map (·.field) := by
  rw [List.map_map]
  refine List.map_congr_left fun key _ => ?_
  unfold reported
  dsimp only [Function.comp_apply]
  split <;> rfl

/-- The key of a row is selected behind the row unless the server has filled it. -/
theorem KeyColumn.filterMap_selectTokens?_eq_nil_iff {keys : List KeyColumn} (row : Nat) :
    keys.filterMap (·.selectTokens? row) = [] ↔ ∀ key ∈ keys, key.source = .server := by
  rw [List.filterMap_eq_nil_iff]
  refine forall₂_congr fun key _ => ?_
  unfold selectTokens?
  cases key.source <;> simp

theorem KeyColumn.placeholders_subset (keys : List KeyColumn) (row : Nat) :
    keys.filterMap (·.placeholder? row) ⊆ rowParameters (keys.map (·.field)) row := by
  intro p hp
  obtain ⟨key, hkey, hplaceholder⟩ := List.mem_filterMap.mp hp
  have hfield : p = rowParameter key.field.name row := by
    unfold placeholder? at hplaceholder
    split at hplaceholder <;> cases hplaceholder
    all_goals rfl
  exact List.mem_map.mpr ⟨key.field, List.mem_map_of_mem hkey, hfield.symm⟩

/-! ### Rows with statements of their own -/

namespace Insert
variable {insert : Insert}

/-- An insert up to the report of its keys. -/
def write (insert : Insert) : Sql := insert.front ++ insert.clauses

theorem sql_eq_write : insert.sql = insert.write ++ (insert.returning.sql ++ stop) := by
  rw [sql_eq, body, write, List.append_assoc]

theorem sound_write (ht : insert.target.hints = none) : insert.write.Sound := by
  have hscript : Script insert.sql := script_sql ht
  rw [sql_eq_write] at hscript
  exact fun piece hpiece => hscript.sound piece (List.mem_append_left _ hpiece)

theorem not_says_returning (ht : insert.target.hints = none) : ¬insert.write.Says "RETURNING" := by
  have houtput : ¬Says (outputClause insert.output false) "RETURNING" := by
    unfold outputClause
    split <;> simp
  have hconflict : ¬Says insert.conflict.sql "RETURNING" := by
    cases insert.conflict with
    | fail => simp [Conflict.sql]
    | onConflict qualifiers updates => simp [Conflict.sql]
    | onDuplicateKey assignments =>
      have hassigned : ∀ assignment : Assignment, ¬Atom.Say assignment.atoms "RETURNING" := by
        intro assignment
        cases assignment <;> simp [Assignment.atoms, Sql.assignment]
      simp [Conflict.sql, hassigned]
  cases hsource : insert.source <;> simp [write, front, clauses, Target.sql, ht, hsource, houtput, hconflict]

/-- Before the report of its keys, no word of an insert is one that reports keys. -/
theorem not_mem_write (ht : insert.target.hints = none) {keyword : String}
    (hk : keyword ∈ ["RETURNING", "SELECT"]) : .word keyword ∉ insert.write.tokens := by
  have htexts : ∀ keyword ∈ ["RETURNING", "SELECT"], keyword.toList.all Char.isDigit = false ∧
      ∀ text ∈ "OVERRIDING SYSTEM VALUE" :: writingTexts, .word keyword ∈ phrase text → text = "RETURNING" := by
    decide +kernel
  obtain ⟨hdigits, honly⟩ := htexts keyword hk
  -- The word would be in a fixed text of an insert, which could only be the one that the report starts with.
  intro hmem
  obtain ⟨text, -, hsays, hword⟩ := (sound_write ht).says_of_word hdigits hmem
  have hwritten : text ∈ "OVERRIDING SYSTEM VALUE" :: writingTexts := by
    by_contra hother
    rw [List.mem_cons, not_or] at hother
    obtain ⟨hne, hother⟩ := hother
    have hsql : insert.sql.Says text := by
      rw [sql_eq_write, says_append]
      exact Or.inl hsays
    exact hne ((says_sql ht hother).mp hsql).2
  obtain rfl := honly text hwritten hword
  exact not_says_returning ht hsays

end Insert

/-- The tokens of a report: the keys, and the number of the row behind them. Without keys there is none. -/
def report (keyword : String) (row : Nat) (keys : List (List Token)) : List Token :=
  if keys = [] then [] else
    .word keyword :: (listed (keys ++ [[number row, .word "AS", .name orderColumn]]) ++ [.mark ';'])

/-- The text for a row of a batch has only parameters of columns in this row, and it ends with the report of
    the keys that it has. -/
def ReportsRow (setting : Setting) (columns : List Field) (keyword : String) (keys : List (List Token))
    (row : Nat) (text : String) : Prop :=
  ∃ before, setting.marks.read text.toList = some (before ++ report keyword row keys) ∧
    .word keyword ∉ before ∧
    (before ++ report keyword row keys).filterMap (·.placeholder?) ⊆ rowParameters columns row

/-- The text of a batch is that of its rows in turn, with spaces between, each of which ends with its report. -/
def ReportsRows (setting : Setting) (columns : List Field) (keyword : String)
    (keys : Nat → List (List Token)) (rows : Nat) (sql : String) : Prop :=
  ∃ texts : Nat → String, sql = " ".intercalate ((List.range rows).map texts) ∧
    ∀ row < rows, ReportsRow setting columns keyword (keys row) row (texts row)

namespace Statement
variable {setting : Setting} {statement : Statement} {insert : Insert} {columns : List Field}
  {keys : List KeyColumn} {row : Nat}

/-- A row that is inserted with its keys returned. -/
theorem reportsRow_returning (hm : setting.marks.IsReadable) (ht : insert.target.hints = none)
    (hreturning : insert.returning = ⟨keys, some row⟩) (hne : keys ≠ [])
    (hp : insert.source.placeholders insert.columns.fields ++ insert.conflict.placeholders ⊆
      rowParameters columns row) :
    ReportsRow setting columns "RETURNING" (names (keys.map (·.field))) row (render setting [.insert insert]) := by
  have hproper : ProperScript [.insert insert] := .single ht trivial
  have hnames : names (keys.map (·.field)) ≠ [] := by simpa [names] using hne
  have htokens : tokens ([Statement.insert insert].flatMap (·.sql setting)) =
      insert.write.tokens ++ report "RETURNING" row (names (keys.map (·.field))) := by
    rw [List.flatMap_singleton, sql, Insert.sql_eq_write, tokens_append, tokens_append, Returned.tokens_sql,
      hreturning, report, if_neg hne, if_neg hnames, Token.listed_concat, if_neg hnames]
    simp
  refine ⟨insert.write.tokens, htokens ▸ hproper.read_tokens hm, Insert.not_mem_write ht (by simp), ?_⟩
  rw [← htokens, (hproper.sound setting).filterMap_tokens, List.flatMap_singleton]
  show (Statement.insert insert).placeholders setting ⊆ rowParameters columns row
  rwa [placeholders_insert]

/-- A row that is inserted before its keys are selected. -/
theorem reportsRow_select (hm : setting.marks.IsReadable) (ht : insert.target.hints = none)
    (hreturning : insert.returning = {})
    (hp : insert.source.placeholders insert.columns.fields ++ insert.conflict.placeholders ++
      keys.filterMap (·.placeholder? row) ⊆ rowParameters columns row) :
    ReportsRow setting columns "SELECT" (keys.filterMap (·.selectTokens? row)) row
      (render setting [.insert insert, .selectKeys keys row true]) := by
  have hproper : ProperScript [.insert insert, .selectKeys keys row true] :=
    ProperScript.append (a := [_]) (.single ht trivial) (by simp [Statement.Proper])
  have htokens : tokens ([Statement.insert insert, .selectKeys keys row true].flatMap (·.sql setting)) =
      insert.write.tokens ++ [.mark ';'] ++ report "SELECT" row (keys.filterMap (·.selectTokens? row)) := by
    rw [List.flatMap_cons, List.flatMap_singleton, tokens_append, tokens_selectKeys, sql, Insert.sql_eq_write,
      hreturning, tokens_append]
    rfl
  refine ⟨insert.write.tokens ++ [.mark ';'], htokens ▸ hproper.read_tokens hm, ?_, ?_⟩
  · have hwrite : .word "SELECT" ∉ insert.write.tokens := Insert.not_mem_write ht (by simp)
    simpa using hwrite
  · rw [← htokens, (hproper.sound setting).filterMap_tokens, placeholders_flatMap, List.flatMap_cons,
      List.flatMap_singleton]
    show (Statement.insert insert).placeholders setting ++ (selectKeys keys row true).placeholders setting ⊆
      rowParameters columns row
    rwa [placeholders_insert, placeholders_selectKeys]

theorem closed_or_nil_flatMap (setting : Setting) (statements : List Statement) :
    statements.flatMap (·.sql setting) = [] ∨ Closed setting (statements.flatMap (·.sql setting)) := by
  induction statements with
  | nil => exact Or.inl rfl
  | cons statement rest ih =>
    rw [List.flatMap_cons]
    rcases statement.closed_or_nil with hnil | hclosed
    · rwa [hnil, List.nil_append]
    · rcases ih with hnil | hrest
      · rw [hnil, List.append_nil]
        exact Or.inr hclosed
      · exact Or.inr (hclosed.append hrest)

theorem closed_cons (hw : Statement.IsWritten statement) (rest : List Statement) :
    Closed setting ((statement :: rest).flatMap (·.sql setting)) := by
  rcases closed_or_nil_flatMap setting (statement :: rest) with hnil | hclosed
  · rw [List.flatMap_cons] at hnil
    exact absurd (List.append_eq_nil_iff.mp hnil).1 hw.sql_ne_nil
  · exact hclosed

/-- The texts of the rows stand one behind the other with spaces between. -/
theorem render_rows {f : Nat → List Statement} (h : ∀ row, Closed setting ((f row).flatMap (·.sql setting)))
    (rows : Nat) : render setting ((List.range rows).flatMap f) =
      " ".intercalate ((List.range rows).map fun row => render setting (f row)) := by
  rw [render, List.flatMap_assoc]
  exact render_flatMap fun row _ => h row

theorem reportsRows_returning (hm : setting.marks.IsReadable) {inserts : Nat → Insert}
    (ht : ∀ row, (inserts row).target.hints = none)
    (hreturning : ∀ row, (inserts row).returning = ⟨keys, some row⟩) (hne : keys ≠ [])
    (hp : ∀ row, (inserts row).source.placeholders (inserts row).columns.fields ++
      (inserts row).conflict.placeholders ⊆ rowParameters columns row) (rows : Nat) :
    ReportsRows setting columns "RETURNING" (fun _ => names (keys.map (·.field))) rows
      (render setting ((List.range rows).map fun row => .insert (inserts row))) := by
  refine ⟨fun row => render setting [.insert (inserts row)], ?_, fun row _ =>
    reportsRow_returning hm (ht row) (hreturning row) hne (hp row)⟩
  rw [List.map_eq_flatMap]
  exact render_rows (fun row => closed_cons (by trivial) []) rows

theorem reportsRows_select (hm : setting.marks.IsReadable) {inserts : Nat → Insert}
    (ht : ∀ row, (inserts row).target.hints = none) (hreturning : ∀ row, (inserts row).returning = {})
    (hp : ∀ row, (inserts row).source.placeholders (inserts row).columns.fields ++
      (inserts row).conflict.placeholders ⊆ rowParameters columns row) {rows : Nat} (hrows : 1 < rows) :
    ReportsRows setting (columns ++ keys.map (·.field)) "SELECT" (fun row => keys.filterMap (·.selectTokens? row))
      rows (render setting (MySql.batch inserts keys rows)) := by
  have hbatch : MySql.batch inserts keys rows = (List.range rows).flatMap fun row =>
      [.insert (inserts row), .selectKeys keys row true] := by
    -- A single row is not numbered.
    rw [MySql.batch, decide_eq_true hrows]
  refine ⟨fun row => render setting [.insert (inserts row), .selectKeys keys row true], ?_, fun row _ =>
    reportsRow_select hm (ht row) (hreturning row) ?_⟩
  · rw [hbatch]
    exact render_rows (fun row => closed_cons (by trivial) _) rows
  · rw [rowParameters_append]
    exact List.append_subset.mpr ⟨List.subset_append_of_subset_left _ (hp row),
      List.subset_append_of_subset_right _ (KeyColumn.placeholders_subset keys row)⟩

end Statement

/-! ### Rows of one merge -/

namespace Merge
variable {setting : Setting} {merge : Merge}

/-- A merge between its source and the report of its keys. -/
def write (merge : Merge) : Sql :=
  merge.matched ++ (word "WHEN NOT MATCHED THEN INSERT" ++ (merge.inserted ++ merge.updated))

theorem sound_write : merge.write.Sound := by
  intro piece hpiece
  refine merge.sound_body piece (List.mem_append_right _ ?_)
  simp only [write, List.mem_append] at hpiece ⊢
  tauto

theorem not_mem_write : .word "OUTPUT" ∉ merge.write.tokens := by
  refine not_mem_tokens_of_unsaid (by simp) sound_write ?_
  cases hqualifiers : merge.qualifiers <;>
    simp [write, matched, inserted, updated, hqualifiers, matchAtoms]

/-- In the text of a merge, behind its target, the source has the number of each row behind its values, and
    this column comes last in the report of the keys. -/
def Correlates (setting : Setting) (merge : Merge) (keys : List KeyColumn) (rows : Nat) : Prop :=
  ∃ text middle, Statement.render setting [.merge merge] = opening setting merge.front ++ text ∧
    setting.marks.read text.toList = some (
      [.word "AS", .word "T", .word "USING", .mark '(', .word "VALUES"] ++
      listed ((List.range rows).map fun row =>
        tuple (Token.parameters merge.source.fields row ++ [[number row]])) ++
      ([.mark ')', .word "AS", .word "S"] ++ tuple (names merge.source.fields ++ [[.name orderColumn]])) ++
      (middle ++ .word "OUTPUT" :: (listed
        (keys.map (fun key => [.word "INSERTED", .mark '.', .name key.field.name]) ++
          [[.word "S", .mark '.', .name orderColumn]]) ++ [.mark ';']))) ∧
    .word "OUTPUT" ∉ middle

theorem correlates (hm : setting.marks.IsReadable) (hsource : merge.source.fields ≠ [])
    (hnumbered : merge.numbered = true) {keys : List KeyColumn} (hkeys : merge.output = keys) (hne : keys ≠ [])
    {rows : Nat} (hrows : merge.rows = rows) : merge.Correlates setting keys rows := by
  subst hkeys hrows
  obtain ⟨text, htext, hread⟩ := Statement.read_merge hm merge
  refine ⟨text, merge.write.tokens, htext, ?_, not_mem_write⟩
  rw [hread, tokens_body hsource, tokens_outputClause, hnumbered, if_neg hne]
  simp [write, tokens_append, phrase_merge]

end Merge

/-! ### Requests -/

namespace Request

/-- Batches that one merge writes on SQL Server: of merges all, and of inserts those of columns in more rows
    than the threshold. -/
def IsMerged (engine : Engine) : Request → Prop
  | insertAll request =>
    (InsertPlan.written engine request).isEmpty = false ∧ engine.options.mergeInsertThreshold < request.rows
  | mergeAll _ => True
  | _ => False

end Request

namespace Engine
variable {engine : Engine} {request : Request} {keys : List KeyColumn}

/-- How a dialect ties the keys to the rows of a request. -/
def Correlates (engine : Engine) (request : Request) (keys : List KeyColumn) (statements : List Statement) :
    Prop :=
  match engine.dialect with
  | .sqlServer => request.IsMerged engine → ∃ table writesIdentity merge,
    statements = SqlServer.withIdentity table writesIdentity [.merge merge] ∧
    Statement.render engine.setting statements =
      " ".intercalate (statements.map fun s => Statement.render engine.setting [s]) ∧
    merge.Correlates engine.setting keys request.batchRows
  | .postgreSql => ReportsRows engine.setting request.rowFields "RETURNING"
    (fun _ => names (keys.map (·.field))) request.batchRows (Statement.render engine.setting statements)
  | .mySql => ReportsRows engine.setting (request.rowFields ++ keys.map (·.field)) "SELECT"
    (fun row => keys.filterMap (·.selectTokens? row)) request.batchRows
    (Statement.render engine.setting statements) ∧
    ∀ row, keys.filterMap (·.selectTokens? row) = [] ↔ ∀ key ∈ keys, key.source = .server

theorem SqlServer.render_withIdentity_eq_intercalate {setting : Setting} (table : Ident)
    (writesIdentity : Bool) (merge : Merge) :
    Statement.render setting (SqlServer.withIdentity table writesIdentity [.merge merge]) =
      " ".intercalate ((SqlServer.withIdentity table writesIdentity [.merge merge]).map fun s =>
        Statement.render setting [s]) := by
  refine Statement.render_eq_intercalate fun s hs => ?_
  rcases SqlServer.mem_withIdentity hs with hs | ⟨on, rfl⟩
  · cases List.mem_singleton.mp hs
    trivial
  · trivial

theorem correlates_insertAll (hm : engine.setting.marks.IsReadable) {request : InsertRequest} {plan : InsertPlan}
    (h : InsertPlan.Accepted engine request request.rows plan) (hrows : 1 < request.rows)
    (hne : plan.keys ≠ []) :
    engine.Correlates (.insertAll request) plan.keys (engine.insertStatements plan) := by
  have hwritten : ∀ row, rowParameters plan.columns.fields row ⊆ rowParameters request.fields.fields row :=
    fun row => List.map_subset _ fun field hfield => (h.mem_columns.mp hfield).1
  unfold Correlates insertStatements
  cases engine.dialect with
  | sqlServer =>
    rintro ⟨hcolumns, hthreshold⟩
    rw [← h.columns] at hcolumns
    have hmerged : SqlServer.insertsByMerge engine.options plan = true := by
      simp [SqlServer.insertsByMerge, hcolumns, h.batch, hthreshold]
    rw [SqlServer.insertStatements, if_neg (by simp [hcolumns]), if_pos hmerged]
    refine ⟨_, _, _, rfl, SqlServer.render_withIdentity_eq_intercalate _ _ _, ?_⟩
    exact Merge.correlates hm (fun hnil => Bool.eq_false_iff.mp hcolumns (List.isEmpty_iff.mpr hnil)) rfl rfl
      hne h.batch
  | postgreSql =>
    show ReportsRows engine.setting request.fields.fields _ _ request.rows _
    rw [← h.batch]
    refine Statement.reportsRows_returning hm (fun _ => rfl) (fun row => ?_) hne (fun row => ?_) plan.rows
    · rw [PostgreSql.returned, h.batch, if_pos hrows]
    · refine List.append_subset.mpr ⟨?_, List.nil_subset _⟩
      dsimp only
      split
      · exact List.nil_subset _
      · simpa using hwritten row
  | mySql =>
    refine ⟨?_, fun row => KeyColumn.filterMap_selectTokens?_eq_nil_iff row⟩
    show ReportsRows engine.setting (request.fields.fields ++ plan.keys.map (·.field)) _ _ request.rows _
    rw [← h.batch] at hrows ⊢
    refine Statement.reportsRows_select hm (fun _ => rfl) (fun _ => rfl) (fun row => ?_) hrows
    exact List.append_subset.mpr ⟨by simpa using hwritten row, List.nil_subset _⟩

theorem correlates_mergeAll (hm : engine.setting.marks.IsReadable) {request : MergeRequest} {plan : MergePlan}
    (h : MergePlan.Accepted engine request request.rows plan) (hrows : 1 < request.rows)
    (hne : plan.keys ≠ []) :
    engine.Correlates (.mergeAll request) plan.keys (engine.mergeStatements plan) := by
  have hwritten : ∀ row,
      rowParameters plan.columnsWithIdentity.fields row ⊆ rowParameters request.fields.fields row :=
    fun row => List.map_subset _ (h.columnsWithIdentity_sublist.trans h.source_sublist).subset
  unfold Correlates mergeStatements
  cases engine.dialect with
  | sqlServer =>
    rintro -
    refine ⟨_, _, _, rfl, SqlServer.render_withIdentity_eq_intercalate _ _ _, ?_⟩
    refine Merge.correlates hm (fun hnil => Bool.eq_false_iff.mp h.hasSource (List.isEmpty_iff.mpr hnil)) ?_ rfl
      hne h.batch
    -- The source is numbered as there are several rows and a key to report.
    simp [h.batch, hrows, hne]
  | postgreSql =>
    show ReportsRows engine.setting request.fields.fields _ _ request.rows _
    rw [← h.batch]
    refine Statement.reportsRows_returning hm (fun _ => rfl) (fun row => ?_) hne (fun row => ?_) plan.rows
    · rw [PostgreSql.returned, h.batch, if_pos hrows]
    · exact List.append_subset.mpr ⟨by simpa using hwritten row, List.nil_subset _⟩
  | mySql =>
    refine ⟨?_, fun row => KeyColumn.filterMap_selectTokens?_eq_nil_iff row⟩
    show ReportsRows engine.setting (request.fields.fields ++ plan.keys.map (·.field)) _ _ request.rows _
    rw [← h.batch] at hrows ⊢
    refine Statement.reportsRows_select hm (fun _ => rfl) (fun _ => rfl) (fun row => ?_) hrows
    refine List.append_subset.mpr ⟨by simpa using hwritten row, ?_⟩
    -- What is assigned to a row that is there are parameters of the same row.
    rw [Conflict.placeholders, MySql.placeholders_assignments]
    exact List.map_subset _ fun field hfield =>
      h.source_sublist.subset (h.mem_updates.mp hfield).1

end Engine

end CrudSql

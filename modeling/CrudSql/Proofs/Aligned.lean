import CrudSql.Proofs.MySql
import CrudSql.Proofs.Statement.Rows

/-! Columns and values line up. Every row of values has the parameters of the columns that it fills, in their
    order, and what is assigned to a row that is already there was supplied for it. -/

namespace CrudSql
open Token (listed tuple names number parameters)

/-! ### Tokens without values -/

namespace Token
variable {a b : List Token}

/-- Neither values nor assignments are among the tokens. -/
def Plain (tokens : List Token) : Prop := ∀ token ∈ tokens, token ≠ .word "VALUES" ∧ token ≠ .mark '='

theorem Plain.nil : Plain [] := nofun

theorem Plain.append (ha : Plain a) (hb : Plain b) : Plain (a ++ b) :=
  fun token htoken => (List.mem_append.mp htoken).elim (ha token) (hb token)

theorem Plain.intercalate {separator : List Token} {items : List (List Token)} (hs : Plain separator)
    (h : ∀ item ∈ items, Plain item) : Plain (separator.intercalate items) := by
  intro token htoken
  rcases mem_intercalate htoken with htoken | ⟨item, hitem, htoken⟩
  · exact hs token htoken
  · exact h item hitem token htoken

theorem Plain.listed {items : List (List Token)} (h : ∀ item ∈ items, Plain item) : Plain (listed items) :=
  .intercalate (by simp [Plain]) h

theorem plain_number (n : Nat) : Plain [number n] := by
  -- A number is a word too, but of digits only.
  have hne : number n ≠ .word "VALUES" := by
    intro heq
    have htext : toString (n : Int) = "VALUES" := Token.word.inj heq
    have hdigits := (toList_toString_digits (Int.natCast_nonneg n)).2
    rw [htext] at hdigits
    exact absurd (hdigits 'V' (by simp)) (by decide)
  intro token htoken
  cases List.mem_singleton.mp htoken
  exact ⟨hne, nofun⟩

theorem plain_outputClause (keys : List KeyColumn) (numbered : Bool) :
    Plain (outputClause keys numbered).tokens := by
  rw [tokens_outputClause]
  split
  · exact .nil
  · refine Plain.append (a := [.word "OUTPUT"]) (by simp [Plain]) (.listed fun item hitem => ?_)
    rcases List.mem_append.mp hitem with hitem | hitem
    · obtain ⟨key, -, rfl⟩ := List.mem_map.mp hitem
      simp [Plain]
    · cases numbered
      · cases hitem
      · cases List.mem_singleton.mp hitem
        simp [Plain]

theorem plain_returned (returned : Returned) : Plain returned.sql.tokens := by
  rw [Returned.tokens_sql]
  split
  · exact .nil
  · refine Plain.append (a := [.word "RETURNING"]) (by simp [Plain]) (.append (.listed fun item hitem => ?_) ?_)
    · obtain ⟨field, -, rfl⟩ := List.mem_map.mp hitem
      simp [Plain]
    · split
      · rename_i row _
        exact Plain.append (a := [.mark ',']) (by simp [Plain]) ((plain_number row).append (by simp [Plain]))
      · exact .nil

theorem plain_identityInsert (setting : Setting) (table : Ident) (on : Bool) :
    Plain ((Statement.identityInsert table on).sql setting).tokens := by
  have hphrases : ∀ text ∈ ["BEGIN TRY SET IDENTITY_INSERT", "ON", "OFF", "END TRY BEGIN CATCH END CATCH", "."],
      Plain (phrase text) := by
    unfold Plain
    decide +kernel
  have htable : Plain (Sql.path table).tokens := by
    rw [Sql.path, Sql.tokens_token, Atom.tokens_separated, Sql.tokens_nil, List.append_nil]
    refine .intercalate (hphrases "." (by simp)) fun item hitem => ?_
    rw [List.map_map, List.mem_map] at hitem
    obtain ⟨part, -, rfl⟩ := hitem
    simp [Plain]
  have hstop : Plain [.mark ';'] := by simp [Plain]
  simp only [Statement.sql, Sql.tokens_append, Sql.tokens_word, Sql.tokens_stop]
  refine ((((hphrases _ (by simp)).append htable).append (hphrases _ ?_)).append hstop).append
    (hphrases _ (by simp)) |>.append hstop
  cases on <;> simp

/-- The keys of a row are selected without values and without assignments. -/
theorem plain_selectKeys (setting : Setting) (keys : List KeyColumn) (row : Nat) (numbered : Bool) :
    Plain ((Statement.selectKeys keys row numbered).sql setting).tokens := by
  rw [tokens_selectKeys]
  split
  · exact .nil
  · have hselect : Plain [.word "SELECT"] := by simp [Plain]
    have hstop : Plain [.mark ';'] := by simp [Plain]
    refine hselect.append (.append (.listed fun item hitem => ?_) hstop)
    rcases List.mem_append.mp hitem with hitem | hitem
    · obtain ⟨⟨field, source⟩, -, hkey⟩ := List.mem_filterMap.mp hitem
      cases source <;> cases hkey <;> simp [Plain]
    · cases numbered
      · cases hitem
      · cases List.mem_singleton.mp hitem
        exact (plain_number row).append (by simp [Plain])

end Token

/-! ### Texts that line up -/

namespace Insert
variable {insert : Insert}

/-- The tokens of an assignment in a row that is there: a written column is set to the parameter that it has
    in the row, or a column to its own value. -/
inductive Assigns (insert : Insert) : List Token → Prop
  | parameter {row : Nat} {field : Field} (hrow : insert.source = .rows [row])
      (hwritten : field ∈ insert.columns.fields) :
    Assigns insert [.name field.name, .mark '=', .placeholder (rowParameter field.name row)]
  | itself (field : Field) : Assigns insert [.name field.name, .mark '=', .name field.name]
  | lastInsertId (field : Field) : Assigns insert
      [.name field.name, .mark '=', .word "LAST_INSERT_ID", .mark '(', .name field.name, .mark ')']

/-- The tokens of what an insert does to a row that is there: nothing, or it sets written columns to what the
    insert would have written. -/
inductive Upserts (insert : Insert) : List Token → Prop
  | never : Upserts insert []
  | nothing (qualifiers : List Field) : Upserts insert
      ([.word "ON", .word "CONFLICT"] ++ tuple (names qualifiers) ++ [.word "DO", .word "NOTHING"])
  | excluded (qualifiers : List Field) {updates : List Field} (hwritten : updates ⊆ insert.columns.fields) :
    Upserts insert ([.word "ON", .word "CONFLICT"] ++ tuple (names qualifiers) ++
      ([.word "DO", .word "UPDATE", .word "SET"] ++ listed (updates.map fun u =>
        [.name u.name, .mark '=', .word "EXCLUDED", .mark '.', .name u.name])))
  | duplicate {assigned : List (List Token)} (hassigned : ∀ tokens ∈ assigned, insert.Assigns tokens) :
    Upserts insert ([.word "ON", .word "DUPLICATE", .word "KEY", .word "UPDATE"] ++ listed assigned)

/-- The tokens of an insert behind its target: the columns, the rows with as many parameters as there are
    columns, and what is done to a row that is there. No other values and no other assignments stand around. -/
structure LinesUp (insert : Insert) (tokens : List Token) : Prop where
  shape : ∃ before upsert after, tokens =
    (if insert.columns.fields = [] then [] else tuple (names insert.columns.fields)) ++
      (before ++ (insert.valueTokens ++ (upsert ++ after))) ∧ insert.Upserts upsert ∧
    ∀ token ∈ before ++ after, token ≠ .word "VALUES" ∧ token ≠ .mark '='
  defaults : insert.source = .defaults → insert.columns.fields = []

theorem linesUp_body (hdefaults : insert.source = .defaults → insert.columns.fields = [])
    (hupserts : insert.Upserts insert.conflict.sql.tokens) : insert.LinesUp insert.body.tokens := by
  refine ⟨⟨_, _, _, tokens_body, hupserts, ?_⟩, hdefaults⟩
  have hoverriding : Token.Plain
      (if insert.overriding then [.word "OVERRIDING", .word "SYSTEM", .word "VALUE"] else []) := by
    split
    · simp [Token.Plain]
    · exact .nil
  -- The keys are reported before the values or behind the upsert, whichever the dialect does.
  exact ((Token.plain_outputClause _ _).append hoverriding).append
    ((Token.plain_returned _).append (by simp [Token.Plain]))

/-- What a conflict does reads as an upsert, if it only assigns what is written. -/
theorem upserts_conflict
    (honConflict : ∀ qualifiers updates, insert.conflict = .onConflict qualifiers updates →
      updates.fields ⊆ insert.columns.fields)
    (honDuplicate : ∀ assignments, insert.conflict = .onDuplicateKey assignments →
      ∀ field row, .parameter field row ∈ assignments →
        insert.source = .rows [row] ∧ field ∈ insert.columns.fields) :
    insert.Upserts insert.conflict.sql.tokens := by
  cases hconflict : insert.conflict with
  | fail => exact .never
  | onConflict qualifiers updates =>
    rw [tokens_onConflict]
    split
    · exact .nothing qualifiers.fields
    · exact .excluded qualifiers.fields (honConflict qualifiers updates hconflict)
  | onDuplicateKey assignments =>
    rw [tokens_onDuplicateKey]
    refine .duplicate fun tokens htokens => ?_
    obtain ⟨assignment, hassignment, rfl⟩ := List.mem_map.mp htokens
    cases assignment with
    | lastInsertId field => exact .lastInsertId field
    | parameter field row =>
      obtain ⟨hrow, hwritten⟩ := honDuplicate assignments hconflict field row hassignment
      exact .parameter hrow hwritten
    | itself field => exact .itself field

end Insert

namespace Merge
variable {merge : Merge}

/-- The columns of the source, with the number of the row if it has one. -/
def declared (merge : Merge) : List String :=
  merge.source.fields.map (·.name) ++ if merge.numbered then [orderColumn] else []

/-- A column of the source. -/
def sourced (column : String) : List Token := [.word "S", .mark '.', .name column]

/-- The tokens of a match: no row, or the columns with the same value or NULL in both. -/
inductive Matches (merge : Merge) : List Token → Prop
  | never : Matches merge [.word "ON", .word "1", .mark '=', .word "0"]
  | columns {qualifiers : List String} (hdeclared : qualifiers ⊆ merge.declared) : Matches merge
      (.word "ON" :: [.word "AND"].intercalate (qualifiers.map fun q =>
        [.mark '(', .word "T", .mark '.', .name q, .mark '='] ++ sourced q ++
          [.word "OR", .mark '(', .word "T", .mark '.', .name q, .word "IS", .word "NULL", .word "AND"] ++
          sourced q ++ [.word "IS", .word "NULL", .mark ')', .mark ')']))

/-- The tokens of a new row: as many columns of the source as columns that they fill. -/
inductive Inserts (merge : Merge) : List Token → Prop
  | defaults : Inserts merge [.word "DEFAULT", .word "VALUES"]
  | columns {written : List String} (hne : written ≠ []) (hdeclared : written ⊆ merge.declared) :
    Inserts merge (tuple (written.map fun c => [.name c]) ++ .word "VALUES" :: tuple (written.map sourced))

/-- The tokens of a row that is there: nothing, or columns are set to those of the source. -/
inductive Updates (merge : Merge) : List Token → Prop
  | never : Updates merge []
  | columns {updates : List String} (hdeclared : updates ⊆ merge.source.fields.map (·.name)) : Updates merge
      ([.word "WHEN", .word "MATCHED", .word "THEN", .word "UPDATE", .word "SET"] ++
        listed (updates.map fun u => [.word "T", .mark '.', .name u, .mark '='] ++ sourced u))

/-- The tokens of the reported keys: none, or those of the written row and some of the source. -/
inductive Outputs (merge : Merge) : List Token → Prop
  | never : Outputs merge []
  | columns (keys : List String) {columns : List String} (hdeclared : columns ⊆ merge.declared) :
    Outputs merge (.word "OUTPUT" :: listed
      (keys.map (fun k => [.word "INSERTED", .mark '.', .name k]) ++ columns.map sourced))

/-- The tokens of a merge behind its target: the rows with as many values as columns are declared, a parameter
    for each column and the number of the row for the last one, if rows are numbered. All that is read from
    the source behind it is declared, in the same spelling. -/
def LinesUp (merge : Merge) (tokens : List Token) : Prop :=
  ∃ matched inserted updated output, tokens =
    [.word "AS", .word "T", .word "USING", .mark '(', .word "VALUES"] ++
      listed ((List.range merge.rows).map fun row => tuple (parameters merge.source.fields row ++
        if merge.numbered then [[number row]] else [])) ++
      ([.mark ')', .word "AS", .word "S"] ++ tuple (merge.declared.map fun c => [.name c])) ++
      (matched ++ ([.word "WHEN", .word "NOT", .word "MATCHED", .word "THEN", .word "INSERT"] ++
        (inserted ++ (updated ++ (output ++ [.mark ';']))))) ∧
    merge.Matches matched ∧ merge.Inserts inserted ∧ merge.Updates updated ∧ merge.Outputs output

theorem map_declared (merge : Merge) : merge.declared.map (fun c => [Token.name c]) =
    names merge.source.fields ++ if merge.numbered then [[.name orderColumn]] else [] := by
  cases hnumbered : merge.numbered <;> simp [declared, names, hnumbered]

theorem subset_declared {fields : List Field} (h : fields ⊆ merge.source.fields) :
    fields.map (·.name) ⊆ merge.declared :=
  List.subset_append_of_subset_left _ (List.map_subset _ h)

theorem matches_matched (h : ∀ qualifiers, merge.qualifiers = some qualifiers →
    qualifiers.fields ⊆ merge.source.fields) : merge.Matches merge.matched.tokens := by
  rw [tokens_matched]
  cases hmatched : merge.qualifiers with
  | none => exact .never
  | some qualifiers =>
    have hmatches := Matches.columns (subset_declared (h qualifiers hmatched))
    rwa [List.map_map] at hmatches

theorem inserts_inserted (h : merge.columns.fields ⊆ merge.source.fields) :
    merge.Inserts merge.inserted.tokens := by
  rw [tokens_inserted]
  split
  · exact .defaults
  · rename_i hne
    have hinserts := Inserts.columns (by simpa using hne) (subset_declared h)
    rwa [List.map_map, List.map_map] at hinserts

theorem updates_updated (h : merge.updates.fields ⊆ merge.source.fields) :
    merge.Updates merge.updated.tokens := by
  rw [tokens_updated]
  split
  · exact .never
  · have hupdates : merge.Updates _ := .columns (List.map_subset (·.name) h)
    rwa [List.map_map] at hupdates

/-- The number of a row is reported only where the source has it. -/
theorem outputs_outputClause (merge : Merge) :
    merge.Outputs (outputClause merge.output merge.numbered).tokens := by
  rw [tokens_outputClause]
  split
  · exact .never
  · have hcolumns : (if merge.numbered then [orderColumn] else []) ⊆ merge.declared :=
      List.subset_append_right _ _
    have houtputs := Outputs.columns (merge.output.map (·.field.name)) hcolumns
    rw [List.map_map] at houtputs
    cases hnumbered : merge.numbered
    all_goals
      rw [hnumbered] at houtputs
      exact houtputs

theorem linesUp_body (hne : merge.source.fields ≠ [])
    (hqualifiers : ∀ qualifiers, merge.qualifiers = some qualifiers → qualifiers.fields ⊆ merge.source.fields)
    (hcolumns : merge.columns.fields ⊆ merge.source.fields)
    (hupdates : merge.updates.fields ⊆ merge.source.fields) : merge.LinesUp merge.body.tokens :=
  ⟨merge.matched.tokens, merge.inserted.tokens, merge.updated.tokens, _, by rw [tokens_body hne, map_declared],
    matches_matched hqualifiers, inserts_inserted hcolumns, updates_updated hupdates,
    outputs_outputClause merge⟩

end Merge

namespace Statement
variable {setting : Setting}

/-- The rows of the batch that a statement has values for, in the order of the values. -/
def valueRows : Statement → List Nat
  | insert i =>
    match i.source with
    | .defaults => []
    | .rows rows => rows
  | merge m => List.range m.rows
  | _ => []

/-- A statement that has no values of its own for any row. -/
def IsWithoutValues : Statement → Prop
  | insert i => i.source = .defaults
  | merge _ => False
  | _ => True

/-- In the text of a statement, columns and values line up. A target is left out, as its hints are text of the
    caller. -/
def LinesUp (setting : Setting) : Statement → Prop
  | insert i => ∃ text tokens, render setting [.insert i] = Sql.opening setting i.front ++ text ∧
    setting.marks.read text.toList = some tokens ∧ i.LinesUp tokens
  | merge m => ∃ text tokens, render setting [.merge m] = Sql.opening setting m.front ++ text ∧
    setting.marks.read text.toList = some tokens ∧ m.LinesUp tokens
  | s => ∃ tokens, setting.marks.read (render setting [s]).toList = some tokens ∧ .word "VALUES" ∉ tokens

theorem linesUp_insert (hm : setting.marks.IsReadable) {insert : Insert}
    (h : insert.LinesUp insert.body.tokens) : LinesUp setting (.insert insert) := by
  obtain ⟨text, htext, hread⟩ := read_insert hm insert
  exact ⟨text, _, htext, hread, h⟩

theorem linesUp_merge (hm : setting.marks.IsReadable) {merge : Merge} (h : merge.LinesUp merge.body.tokens) :
    LinesUp setting (.merge merge) := by
  obtain ⟨text, htext, hread⟩ := read_merge hm merge
  exact ⟨text, _, htext, hread, h⟩

theorem linesUp_identityInsert (hm : setting.marks.IsReadable) (table : Ident) (on : Bool) :
    LinesUp setting (.identityInsert table on) :=
  ⟨_, read_proper hm trivial, fun h => (Token.plain_identityInsert setting table on _ h).1 rfl⟩

theorem linesUp_selectKeys (hm : setting.marks.IsReadable) (keys : List KeyColumn) (row : Nat)
    (numbered : Bool) : LinesUp setting (.selectKeys keys row numbered) :=
  ⟨_, read_proper hm trivial, fun h => (Token.plain_selectKeys setting keys row numbered _ h).1 rfl⟩

end Statement

/-! ### Plans -/

/-- A parameter that is assigned is that of an updated column in the same row. -/
theorem MySql.parameter_mem_assignments {plan : MergePlan} {row other : Nat} {field : Field}
    (h : .parameter field other ∈ MySql.assignments plan row) : row = other ∧ field ∈ plan.updates.fields := by
  obtain ⟨identity, hidentity, hassignments⟩ := MySql.assignments_eq plan row
  rw [hassignments] at h
  dsimp only at h
  split at h
  · obtain ⟨qualifier, -, ⟨⟩⟩ := List.mem_map.mp h
  · rcases List.mem_append.mp h with h | h
    · obtain ⟨known, -, -, ⟨⟩⟩ := hidentity _ h
    · obtain ⟨updated, hupdated, heq⟩ := List.mem_map.mp h
      cases heq
      exact ⟨rfl, hupdated⟩

/-! ### Requests -/

namespace Engine
variable {engine : Engine} {request : Request} {rows : Nat}

theorem SqlServer.linesUp_withIdentity {setting : Setting} (hm : setting.marks.IsReadable) {table : Ident}
    {writesIdentity : Bool} {statements : List Statement} (h : ∀ s ∈ statements, s.LinesUp setting) :
    ∀ s ∈ SqlServer.withIdentity table writesIdentity statements, s.LinesUp setting := by
  intro s hs
  rcases SqlServer.mem_withIdentity hs with hs | ⟨on, rfl⟩
  · exact h s hs
  · exact Statement.linesUp_identityInsert hm table on

theorem SqlServer.valueRows_withIdentity (table : Ident) (writesIdentity : Bool) (statements : List Statement) :
    (SqlServer.withIdentity table writesIdentity statements).flatMap (·.valueRows) =
      statements.flatMap (·.valueRows) := by
  unfold SqlServer.withIdentity
  split
  · simp [Statement.valueRows]
  · rfl

/-- An insert that does nothing to rows that are there. -/
theorem linesUp_insert {setting : Setting} (hm : setting.marks.IsReadable) {insert : Insert}
    (hconflict : insert.conflict = .fail) (hdefaults : insert.source = .defaults → insert.columns.fields = []) :
    Statement.LinesUp setting (.insert insert) := by
  refine Statement.linesUp_insert hm (Insert.linesUp_body hdefaults (Insert.upserts_conflict ?_ ?_))
  · intro qualifiers updates h
    rw [hconflict] at h
    cases h
  · intro assignments h
    rw [hconflict] at h
    cases h

theorem linesUp_insertStatements (hm : engine.setting.marks.IsReadable) (plan : InsertPlan) :
    ∀ s ∈ engine.insertStatements plan, s.LinesUp engine.setting := by
  unfold insertStatements
  cases engine.dialect with
  | sqlServer =>
    refine SqlServer.linesUp_withIdentity hm fun s hs => ?_
    unfold SqlServer.insertStatements at hs
    split at hs
    · rename_i hempty
      cases (List.mem_replicate.mp hs).2
      exact linesUp_insert hm rfl fun _ => List.isEmpty_iff.mp hempty
    · rename_i hne
      split at hs
      · cases List.mem_singleton.mp hs
        exact Statement.linesUp_merge hm (Merge.linesUp_body (fun hnil => hne (List.isEmpty_iff.mpr hnil))
          nofun (List.Subset.refl _) (List.nil_subset _))
      · cases List.mem_singleton.mp hs
        exact linesUp_insert hm rfl nofun
  | postgreSql =>
    intro s hs
    obtain ⟨row, -, rfl⟩ := List.mem_map.mp hs
    refine linesUp_insert hm rfl fun hdefaults => ?_
    -- Rows have their defaults only where no column is written.
    by_contra hne
    have hempty : plan.columns.isEmpty = false := Bool.eq_false_iff.mpr fun h => hne (List.isEmpty_iff.mp h)
    simp only [hempty, Bool.false_eq_true, if_false] at hdefaults
    cases hdefaults
  | mySql =>
    intro s hs
    obtain ⟨row, -, hs⟩ := List.mem_flatMap.mp hs
    rcases List.mem_pair.mp hs with rfl | rfl
    · exact linesUp_insert hm rfl nofun
    · exact Statement.linesUp_selectKeys hm plan.keys row _

/-- There are values for every row in turn, or for no row if no column is written. -/
theorem valueRows_insertStatements (engine : Engine) (plan : InsertPlan) :
    (engine.insertStatements plan).flatMap (·.valueRows) = List.range plan.rows ∨
      ∀ s ∈ engine.insertStatements plan, s.IsWithoutValues := by
  unfold insertStatements
  cases engine.dialect with
  | sqlServer =>
    dsimp only
    rw [SqlServer.valueRows_withIdentity]
    unfold SqlServer.insertStatements
    split
    · refine Or.inr fun s hs => ?_
      rcases SqlServer.mem_withIdentity hs with hs | ⟨on, rfl⟩
      · cases (List.mem_replicate.mp hs).2
        rfl
      · trivial
    · left
      split <;> exact List.append_nil _
  | postgreSql =>
    by_cases hempty : plan.columns.isEmpty = true
    · refine Or.inr fun s hs => ?_
      obtain ⟨row, -, rfl⟩ := List.mem_map.mp hs
      exact if_pos hempty
    · left
      simp [PostgreSql.insert, PostgreSql.insertRow, hempty, List.flatMap_map, Statement.valueRows]
  | mySql =>
    left
    simp [MySql.insert, MySql.insertRow, List.flatMap_assoc, Statement.valueRows]

theorem linesUp_mergeStatements (hm : engine.setting.marks.IsReadable) {request : MergeRequest}
    {plan : MergePlan} (h : MergePlan.Accepted engine request rows plan) :
    ∀ s ∈ engine.mergeStatements plan, s.LinesUp engine.setting := by
  unfold mergeStatements
  cases engine.dialect with
  | sqlServer =>
    refine SqlServer.linesUp_withIdentity hm fun s hs => ?_
    cases List.mem_singleton.mp hs
    refine Statement.linesUp_merge hm (Merge.linesUp_body ?_ ?_ ?_ ?_)
    · exact fun hnil => Bool.eq_false_iff.mp h.hasSource (List.isEmpty_iff.mpr hnil)
    -- The four lists of columns are parts of the source, each by another check of the plan.
    · rintro qualifiers ⟨⟩
      exact h.qualifiers_subset
    · exact fun field hfield => (h.mem_columns.mp hfield).1
    · exact fun field hfield => (h.mem_updates.mp hfield).1
  | postgreSql =>
    intro s hs
    obtain ⟨row, -, rfl⟩ := List.mem_map.mp hs
    refine Statement.linesUp_insert hm (Insert.linesUp_body nofun (Insert.upserts_conflict ?_ nofun))
    rintro _ _ ⟨⟩
    exact h.updates_subset
  | mySql =>
    intro s hs
    obtain ⟨row, -, hs⟩ := List.mem_flatMap.mp hs
    rcases List.mem_pair.mp hs with rfl | rfl
    · refine Statement.linesUp_insert hm (Insert.linesUp_body nofun (Insert.upserts_conflict nofun ?_))
      rintro _ ⟨⟩ field other hassigned
      obtain ⟨rfl, hupdated⟩ := MySql.parameter_mem_assignments hassigned
      exact ⟨rfl, h.updates_subset _ hupdated⟩
    · exact Statement.linesUp_selectKeys hm plan.keys row _

theorem valueRows_mergeStatements (engine : Engine) (plan : MergePlan) :
    (engine.mergeStatements plan).flatMap (·.valueRows) = List.range plan.rows := by
  unfold mergeStatements
  cases engine.dialect with
  | sqlServer =>
    dsimp only [SqlServer.merge]
    rw [SqlServer.valueRows_withIdentity]
    exact List.append_nil _
  | postgreSql => simp [PostgreSql.merge, PostgreSql.mergeRow, List.flatMap_map, Statement.valueRows]
  | mySql => simp [MySql.merge, MySql.mergeRow, List.flatMap_assoc, Statement.valueRows]

/-- Columns and values line up in every insert and every merge. The text is that of the statements with spaces
    between. In each of them, a row of values has the parameters of the columns that it fills, in their order;
    all that a merge reads from its source is declared there; and what is assigned to a row that is already
    there is among the values for it. Together they have values for each row of the batch in turn, or none. -/
theorem linesUp_of_build (hm : engine.setting.marks.IsReadable) (hr : request.ReportsKeys) {sql : String}
    (h : (engine.build request).outcome = .ok sql) :
    ∃ statements, (engine.statements request).outcome = .ok statements ∧
      sql = " ".intercalate ((statements.map fun s => Statement.render engine.setting [s]).filter (· ≠ "")) ∧
      (∀ s ∈ statements, s.LinesUp engine.setting) ∧
      (statements.flatMap (·.valueRows) = List.range request.batchRows ∨
        ∀ s ∈ statements, s.IsWithoutValues) := by
  obtain ⟨statements, hstatements, rfl⟩ := build_eq_ok_iff.mp h
  refine ⟨statements, hstatements, Statement.render_eq_intercalate_filter statements, ?_⟩
  cases request with
  | insert request | insertAll request =>
    obtain ⟨plan, hplan, rfl⟩ := insert_eq_ok_iff.mp hstatements
    have hrows := valueRows_insertStatements engine plan
    rw [hplan.batch] at hrows
    exact ⟨linesUp_insertStatements hm plan, hrows⟩
  | merge request | mergeAll request =>
    obtain ⟨plan, hplan, rfl⟩ := merge_eq_ok_iff.mp hstatements
    have hrows := valueRows_mergeStatements engine plan
    rw [hplan.batch] at hrows
    exact ⟨linesUp_mergeStatements hm hplan, Or.inl hrows⟩
  | _ => cases hr

/-- A merge of two rows, which are numbered as their keys are reported. -/
theorem linesUp_of_build_numbered :
    let engine : Engine := { dialect := .sqlServer }
    let fields : FieldSet := ⟨[{ name := "Id" }, { name := "Name" }], of_decide_eq_true rfl⟩
    let columns : Columns := ⟨[{ name := "Id", isPrimary := true, isIdentity := true }]⟩
    let request : Request := .mergeAll { table := "T", fields, columns, rows := 2 }
    engine.setting.marks.IsReadable ∧ request.ReportsKeys ∧ ∃ sql, (engine.build request).outcome = .ok sql ∧
      ∃ statements, (engine.statements request).outcome = .ok statements ∧
        (∀ s ∈ statements, s.LinesUp engine.setting) ∧
        (statements.flatMap (·.valueRows) = [0, 1] ∨ ∀ s ∈ statements, s.IsWithoutValues) := by
  intro engine fields columns request
  have hm : engine.setting.marks.IsReadable := Marks.IsStandard.isReadable ⟨by decide, rfl⟩
  have hr : request.ReportsKeys := trivial
  have hplan := MergePlan.accepted_numbered .sqlServer
  have hstatements : (engine.statements request).outcome = .ok _ := merge_eq_ok_iff.mpr ⟨_, hplan, rfl⟩
  have hbuild := build_eq_ok_iff.mpr ⟨_, hstatements, rfl⟩
  obtain ⟨statements, hbatch, -, hlines, hrows⟩ := linesUp_of_build hm hr hbuild
  exact ⟨hm, hr, _, hbuild, statements, hbatch, hlines, hrows⟩

end Engine

end CrudSql

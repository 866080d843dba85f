import CrudSql.Proofs.Render
import CrudSql.Proofs.Token.Clause

/-! Inserts and merges behind their target. The hints of a target are text of the caller; what follows them is
    read as it stands, clause by clause. -/

namespace CrudSql
open Sql
open Token (listed tuple names number)

attribute [local simp] Sql.tokens_append

/-! ### Clauses -/

section Clauses

theorem phrase_row : phrase "VALUES" = [.word "VALUES"] ∧
    phrase "DEFAULT VALUES" = [.word "DEFAULT", .word "VALUES"] ∧
    phrase "OVERRIDING SYSTEM VALUE" = [.word "OVERRIDING", .word "SYSTEM", .word "VALUE"] ∧
    phrase "OUTPUT" = [.word "OUTPUT"] ∧ phrase "INSERTED." = [.word "INSERTED", .mark '.'] ∧
    phrase "S." = [.word "S", .mark '.'] ∧ phrase "RETURNING" = [.word "RETURNING"] := by
  decide +kernel

theorem phrase_conflict : phrase "ON CONFLICT" = [.word "ON", .word "CONFLICT"] ∧
    phrase "DO NOTHING" = [.word "DO", .word "NOTHING"] ∧
    phrase "DO UPDATE SET" = [.word "DO", .word "UPDATE", .word "SET"] ∧
    phrase " = EXCLUDED." = [.mark '=', .word "EXCLUDED", .mark '.'] ∧
    phrase "ON DUPLICATE KEY UPDATE" = [.word "ON", .word "DUPLICATE", .word "KEY", .word "UPDATE"] ∧
    phrase " = LAST_INSERT_ID(" = [.mark '=', .word "LAST_INSERT_ID", .mark '('] ∧
    phrase " = " = [.mark '='] ∧ phrase ")" = [.mark ')'] := by
  decide +kernel

theorem phrase_merge : phrase "AS T USING" = [.word "AS", .word "T", .word "USING"] ∧
    phrase "AS S" = [.word "AS", .word "S"] ∧
    phrase "ON 1=0" = [.word "ON", .word "1", .mark '=', .word "0"] ∧ phrase "ON" = [.word "ON"] ∧
    phrase " AND " = [.word "AND"] ∧ phrase "(T." = [.mark '(', .word "T", .mark '.'] ∧
    phrase " = S." = [.mark '=', .word "S", .mark '.'] ∧
    phrase " OR (T." = [.word "OR", .mark '(', .word "T", .mark '.'] ∧
    phrase " IS NULL AND S." = [.word "IS", .word "NULL", .word "AND", .word "S", .mark '.'] ∧
    phrase " IS NULL))" = [.word "IS", .word "NULL", .mark ')', .mark ')'] ∧
    phrase "WHEN NOT MATCHED THEN INSERT" =
      [.word "WHEN", .word "NOT", .word "MATCHED", .word "THEN", .word "INSERT"] ∧
    phrase "WHEN MATCHED THEN UPDATE SET" =
      [.word "WHEN", .word "MATCHED", .word "THEN", .word "UPDATE", .word "SET"] ∧
    phrase "T." = [.word "T", .mark '.'] := by
  decide +kernel

theorem tokens_commaSeparated (items : List Sql) : (commaSeparated items).tokens = listed (items.map Sql.tokens) := by
  cases items with
  | nil => rfl
  | cons item rest =>
    rw [commaSeparated, tokens_append, List.map_cons, Token.listed_cons, List.flatMap_map]
    simp only [tokens, List.flatMap_assoc]
    rfl

theorem tokens_outputClause (keys : List KeyColumn) (numbered : Bool) :
    (outputClause keys numbered).tokens = if keys = [] then [] else
      .word "OUTPUT" :: listed (keys.map (fun key => [.word "INSERTED", .mark '.', .name key.field.name]) ++
        if numbered then [[.word "S", .mark '.', .name orderColumn]] else []) := by
  cases keys with
  | nil => rfl
  | cons key keys =>
    cases numbered <;> simp [outputClause, phrase_row, Function.comp_def]

theorem opens_outputClause {setting : Setting} (keys : List KeyColumn) (numbered : Bool) :
    outputClause keys numbered = [] ∨ Opens setting (outputClause keys numbered) := by
  unfold outputClause
  split
  · exact Or.inl rfl
  · exact Or.inr (Opens.append opens_word _)

theorem Returned.tokens_sql (returned : Returned) : returned.sql.tokens = if returned.keys = [] then [] else
    .word "RETURNING" :: (listed (names (returned.keys.map (·.field))) ++
      match returned.row with
      | some row => [.mark ',', number row, .word "AS", .name orderColumn]
      | none => []) := by
  obtain ⟨keys, row⟩ := returned
  cases keys with
  | nil => rfl
  | cons key keys => cases row <;> simp [sql, phrase_row]

namespace KeyColumn

/-- The tokens of the value of a key behind the row; none where the server has filled it. -/
def selectTokens? (row : Nat) (key : KeyColumn) : Option (List Token) :=
  match key.source with
  | .identity =>
    some [.word "LAST_INSERT_ID", .mark '(', .mark ')', .word "AS", .name key.field.name]
  | .supplied => some [.placeholder (rowParameter key.field.name row), .word "AS", .name key.field.name]
  | .suppliedOrIdentity =>
    some [.word "COALESCE", .mark '(', .placeholder (rowParameter key.field.name row), .mark ',',
      .word "LAST_INSERT_ID", .mark '(', .mark ')', .mark ')', .word "AS", .name key.field.name]
  | .server => none

theorem phrase_key : phrase "LAST_INSERT_ID()" = [.word "LAST_INSERT_ID", .mark '(', .mark ')'] ∧
    phrase "COALESCE(" = [.word "COALESCE", .mark '('] ∧
    phrase ", LAST_INSERT_ID())" =
      [.mark ',', .word "LAST_INSERT_ID", .mark '(', .mark ')', .mark ')'] ∧
    phrase " AS " = [.word "AS"] ∧ phrase "SELECT" = [.word "SELECT"] := by
  decide +kernel

theorem map_selectAtoms? (row : Nat) (key : KeyColumn) :
    (key.selectAtoms? row).map (·.flatMap (·.tokens)) = key.selectTokens? row := by
  obtain ⟨field, source⟩ := key
  cases source <;> simp [selectAtoms?, valueAtoms?, selectTokens?, phrase_key]

end KeyColumn

theorem tokens_selectKeys (setting : Setting) (keys : List KeyColumn) (row : Nat) (numbered : Bool) :
    ((Statement.selectKeys keys row numbered).sql setting).tokens =
      if keys.filterMap (·.selectTokens? row) = [] then [] else
        .word "SELECT" :: (listed (keys.filterMap (·.selectTokens? row) ++
          if numbered then [[number row, .word "AS", .name orderColumn]] else []) ++ [.mark ';']) := by
  have hitems : keys.filterMap (·.selectTokens? row) =
      (keys.filterMap (·.selectAtoms? row)).map (·.flatMap (·.tokens)) := by
    simp only [← KeyColumn.map_selectAtoms?, List.map_filterMap]
  rw [Statement.sql, hitems]
  cases keys.filterMap (·.selectAtoms? row) with
  | nil => rfl
  | cons item items =>
    cases numbered <;> simp [KeyColumn.phrase_key]

/-- The tokens of an assignment. -/
def Assignment.tokens : Assignment → List Token
  | lastInsertId field =>
    [.name field.name, .mark '=', .word "LAST_INSERT_ID", .mark '(', .name field.name, .mark ')']
  | parameter field row => [.name field.name, .mark '=', .placeholder (rowParameter field.name row)]
  | itself field => [.name field.name, .mark '=', .name field.name]

theorem Assignment.flatMap_atoms (assignment : Assignment) :
    assignment.atoms.flatMap (·.tokens) = assignment.tokens := by
  cases assignment <;> simp [atoms, Sql.assignment, tokens, phrase_conflict]

theorem tokens_onConflict (qualifiers updates : FieldSet) :
    (Conflict.onConflict qualifiers updates).sql.tokens =
      [.word "ON", .word "CONFLICT"] ++ tuple (names qualifiers.fields) ++
        if updates.fields = [] then [.word "DO", .word "NOTHING"] else
          [.word "DO", .word "UPDATE", .word "SET"] ++ listed (updates.fields.map fun u =>
            [.name u.name, .mark '=', .word "EXCLUDED", .mark '.', .name u.name]) := by
  by_cases h : updates.fields = []
  · simp [Conflict.sql, FieldSet.isEmpty, h, phrase_conflict, tuple]
  · simp [Conflict.sql, FieldSet.isEmpty, h, phrase_conflict, tuple, Function.comp_def]

theorem tokens_onDuplicateKey (assignments : List Assignment) :
    (Conflict.onDuplicateKey assignments).sql.tokens =
      [.word "ON", .word "DUPLICATE", .word "KEY", .word "UPDATE"] ++ listed (assignments.map (·.tokens)) := by
  simp [Conflict.sql, phrase_conflict, Function.comp_def, Assignment.flatMap_atoms]

end Clauses

/-! ### Inserts -/

namespace Insert
variable {setting : Setting} {insert : Insert}

/-- An insert up to its target. -/
def front (insert : Insert) : Sql := word "INSERT" ++ word "INTO" ++ insert.target.sql

/-- What an insert writes, between its target and the keys that it returns. -/
def clauses (insert : Insert) : Sql :=
  (if insert.columns.isEmpty then [] else parenthesized (Sql.columns insert.columns.fields)) ++
  (outputClause insert.output false ++ (if insert.overriding then word "OVERRIDING SYSTEM VALUE" else [])) ++
  (match insert.source with
    | .defaults => word "DEFAULT VALUES"
    | .rows rows =>
      word "VALUES" ++ commaSeparated (rows.map fun row =>
        parenthesized (parameters insert.columns.fields row))) ++
  insert.conflict.sql

/-- An insert behind its target. -/
def body (insert : Insert) : Sql := insert.clauses ++ (insert.returning.sql ++ stop)

theorem sql_eq : insert.sql = insert.front ++ insert.body := by
  cases hsource : insert.source <;> simp only [sql, head, front, body, clauses, hsource, List.append_assoc]

/-- Without hints, an insert is a script, and so its text behind the target can be read alone. -/
theorem sound_body : insert.body.Sound := by
  let unhinted : Insert := { insert with target := { insert.target with hints := none } }
  have hscript : Script unhinted.sql := script_sql rfl
  rw [sql_eq] at hscript
  exact fun piece hpiece => hscript.sound piece (List.mem_append_right _ hpiece)

theorem opens_body : Opens setting insert.body := by
  have hcolumns : (if insert.columns.isEmpty then [] else parenthesized (Sql.columns insert.columns.fields)) =
      [] ∨ Opens setting (if insert.columns.isEmpty then []
        else parenthesized (Sql.columns insert.columns.fields)) := by
    split
    · exact Or.inl rfl
    · exact Or.inr (opens_parenthesized _)
  have hoverriding : (if insert.overriding then word "OVERRIDING SYSTEM VALUE" else []) = [] ∨
      Opens setting (if insert.overriding then word "OVERRIDING SYSTEM VALUE" else []) := by
    split
    · exact Or.inr opens_word
    · exact Or.inl rfl
  simp only [body, clauses, List.append_assoc]
  refine .prepend hcolumns (.prepend (opens_outputClause _ _) (.prepend hoverriding (.append ?_ _)))
  cases insert.source with
  | defaults => exact opens_word
  | rows rows => exact Opens.append opens_word _

/-- The tokens of the rows of values. -/
def valueTokens (insert : Insert) : List Token :=
  match insert.source with
  | .defaults => [.word "DEFAULT", .word "VALUES"]
  | .rows rows => .word "VALUES" :: listed (rows.map fun row =>
    tuple (Token.parameters insert.columns.fields row))

/-- The tokens of an insert behind its target. -/
theorem tokens_body : insert.body.tokens =
    (if insert.columns.fields = [] then [] else tuple (names insert.columns.fields)) ++
      (((outputClause insert.output false).tokens ++
        if insert.overriding then [.word "OVERRIDING", .word "SYSTEM", .word "VALUE"] else []) ++
      (insert.valueTokens ++ (insert.conflict.sql.tokens ++ (insert.returning.sql.tokens ++ [.mark ';'])))) := by
  have hcolumns : insert.columns.isEmpty = true ↔ insert.columns.fields = [] := List.isEmpty_iff
  cases hsource : insert.source <;>
    simp [body, clauses, valueTokens, hsource, hcolumns, phrase_row, tokens_commaSeparated, Function.comp_def, tuple]

end Insert

/-! ### Merges -/

namespace Merge
variable {setting : Setting} {merge : Merge}

/-- A merge up to its target. -/
def front (merge : Merge) : Sql := word "MERGE" ++ merge.target.sql

/-- The condition by which rows match. -/
def matched (merge : Merge) : Sql :=
  match merge.qualifiers with
  | none => word "ON 1=0"
  | some qualifiers =>
    word "ON" ++ [.token (Atom.separated " AND " (qualifiers.fields.map matchAtoms))]

/-- What is written in a row that is new. -/
def inserted (merge : Merge) : Sql :=
  if merge.columns.isEmpty then word "DEFAULT VALUES"
  else parenthesized (Sql.columns merge.columns.fields) ++ word "VALUES" ++
    parenthesized (aliasedColumns "S" merge.columns.fields)

/-- What is written in a row that is there. -/
def updated (merge : Merge) : Sql :=
  if merge.updates.isEmpty then []
  else word "WHEN MATCHED THEN UPDATE SET" ++ list (merge.updates.fields.map fun field =>
    [.fixed "T.", .name field.name, .fixed " = S.", .name field.name])

/-- A merge behind its target. -/
def body (merge : Merge) : Sql :=
  word "AS T USING" ++
  parenthesized (word "VALUES" ++ commaSeparated ((List.range merge.rows).map merge.sourceRow)) ++
  (word "AS S" ++ parenthesized (Sql.columns merge.source.fields ++
    (if merge.numbered then comma ++ quoted orderColumn else []))) ++
  (merge.matched ++ (word "WHEN NOT MATCHED THEN INSERT" ++
    (merge.inserted ++ (merge.updated ++ (outputClause merge.output merge.numbered ++ stop)))))

theorem sql_eq : merge.sql = merge.front ++ merge.body := by
  cases hqualifiers : merge.qualifiers <;>
    simp only [sql, front, body, matched, inserted, updated, hqualifiers, List.append_assoc]

theorem sound_body : merge.body.Sound := by
  let unhinted : Merge := { merge with target := { merge.target with hints := none } }
  have hscript : Script unhinted.sql := script_sql rfl
  rw [sql_eq] at hscript
  exact fun piece hpiece => hscript.sound piece (List.mem_append_right _ hpiece)

theorem opens_body : Opens setting merge.body := by
  simp only [body, List.append_assoc]
  exact Opens.append opens_word _

theorem tokens_matched : merge.matched.tokens =
    match merge.qualifiers with
    | none => [.word "ON", .word "1", .mark '=', .word "0"]
    | some qualifiers => .word "ON" :: [.word "AND"].intercalate (qualifiers.fields.map fun q =>
      [.mark '(', .word "T", .mark '.', .name q.name, .mark '=', .word "S", .mark '.', .name q.name, .word "OR",
        .mark '(', .word "T", .mark '.', .name q.name, .word "IS", .word "NULL", .word "AND",
        .word "S", .mark '.', .name q.name, .word "IS", .word "NULL", .mark ')', .mark ')']) := by
  cases hqualifiers : merge.qualifiers <;>
    simp [matched, hqualifiers, phrase_merge, Function.comp_def, matchAtoms]

theorem tokens_inserted : merge.inserted.tokens =
    if merge.columns.fields = [] then [.word "DEFAULT", .word "VALUES"] else
      tuple (names merge.columns.fields) ++
        .word "VALUES" :: tuple (merge.columns.fields.map fun c => [.word "S", .mark '.', .name c.name]) := by
  have hcolumns : merge.columns.isEmpty = true ↔ merge.columns.fields = [] := List.isEmpty_iff
  simp [inserted, hcolumns, phrase_row, tuple]

theorem tokens_updated : merge.updated.tokens =
    if merge.updates.fields = [] then [] else
      [.word "WHEN", .word "MATCHED", .word "THEN", .word "UPDATE", .word "SET"] ++
        listed (merge.updates.fields.map fun u => [.word "T", .mark '.', .name u.name, .mark '=', .word "S",
          .mark '.', .name u.name]) := by
  have hupdates : merge.updates.isEmpty = true ↔ merge.updates.fields = [] := List.isEmpty_iff
  simp [updated, hupdates, phrase_merge, Function.comp_def]

/-- The tokens of a source with one more item, if it is numbered. -/
theorem listed_numbered {items : List (List Token)} (h : items ≠ []) (numbered : Bool) (last : List Token) :
    listed (items ++ if numbered then [last] else []) =
      listed items ++ if numbered then .mark ',' :: last else [] := by
  cases numbered <;> simp [Token.listed_concat, h]

/-- The tokens of a merge behind its target. -/
theorem tokens_body (h : merge.source.fields ≠ []) : merge.body.tokens =
    [.word "AS", .word "T", .word "USING", .mark '(', .word "VALUES"] ++
      listed ((List.range merge.rows).map fun row => tuple (Token.parameters merge.source.fields row ++
        if merge.numbered then [[number row]] else [])) ++
      ([.mark ')', .word "AS", .word "S"] ++ tuple (names merge.source.fields ++
        if merge.numbered then [[.name orderColumn]] else [])) ++
      (merge.matched.tokens ++ ([.word "WHEN", .word "NOT", .word "MATCHED", .word "THEN", .word "INSERT"] ++
        (merge.inserted.tokens ++ (merge.updated.tokens ++
          ((outputClause merge.output merge.numbered).tokens ++ [.mark ';']))))) := by
  have hparameters : ∀ row, Token.parameters merge.source.fields row ≠ [] := fun row => by
    simpa [Token.parameters] using h
  have hnames : names merge.source.fields ≠ [] := by
    simpa [names] using h
  simp only [tuple, listed_numbered (hparameters _), listed_numbered hnames]
  cases hnumbered : merge.numbered <;>
    simp [body, phrase_row, phrase_merge, tokens_commaSeparated, Function.comp_def, sourceRow, hnumbered]

end Merge

/-! ### Statements -/

namespace Statement
variable {setting : Setting}

theorem render_insert (insert : Insert) : render setting [.insert insert] =
    Sql.opening setting insert.front ++ Sql.render setting insert.body := by
  rw [render, List.flatMap_singleton, sql, Insert.sql_eq, insert.opens_body.render_append]

theorem render_merge (merge : Merge) : render setting [.merge merge] =
    Sql.opening setting merge.front ++ Sql.render setting merge.body := by
  rw [render, List.flatMap_singleton, sql, Merge.sql_eq, merge.opens_body.render_append]

/-- Behind the target, an insert is read as its clauses are. -/
theorem read_insert (hm : setting.marks.IsReadable) (insert : Insert) :
    ∃ text, render setting [.insert insert] = Sql.opening setting insert.front ++ text ∧
      setting.marks.read text.toList = some insert.body.tokens :=
  ⟨Sql.render setting insert.body, render_insert insert, insert.sound_body.read_render hm⟩

theorem read_merge (hm : setting.marks.IsReadable) (merge : Merge) :
    ∃ text, render setting [.merge merge] = Sql.opening setting merge.front ++ text ∧
      setting.marks.read text.toList = some merge.body.tokens :=
  ⟨Sql.render setting merge.body, render_merge merge, merge.sound_body.read_render hm⟩

theorem read_proper (hm : setting.marks.IsReadable) {s : Statement} (h : s.Proper) :
    setting.marks.read (render setting [s]).toList = some (s.sql setting).tokens := by
  have hsound : (s.sql setting).Sound := h.script.sound
  rw [render, List.flatMap_singleton]
  exact hsound.read_render hm

/-- Only a query of keys that are all the server's has no text. -/
theorem closed_or_nil (s : Statement) : s.sql setting = [] ∨ Closed setting (s.sql setting) := by
  by_cases hwritten : s.IsWritten
  · exact Or.inr hwritten.closed
  · cases s with
    | selectKeys keys row numbered =>
      rw [sql]
      split
      · exact Or.inl rfl
      · exact Or.inr ⟨Opens.append opens_word _, _, rfl⟩
    | _ => exact absurd trivial hwritten

/-- Statements stand one behind the other with spaces between, except for those without a text. -/
theorem render_eq_intercalate_filter (statements : List Statement) : render setting statements =
    " ".intercalate ((statements.map fun s => render setting [s]).filter (· ≠ "")) := by
  have hdropped : statements.flatMap (·.sql setting) =
      (statements.filter fun s => s.sql setting ≠ []).flatMap (·.sql setting) := by
    induction statements with
    | nil => rfl
    | cons s rest ih =>
      by_cases hnil : s.sql setting = [] <;> simp [hnil, ih]
  have hclosed : ∀ s ∈ statements.filter fun s => s.sql setting ≠ [], Closed setting (s.sql setting) :=
    fun s hs => s.closed_or_nil.resolve_left (by simpa using (List.mem_filter.mp hs).2)
  have htext : ∀ s : Statement, render setting [s] = "" ↔ s.sql setting = [] := by
    intro s
    rw [render, List.flatMap_singleton]
    refine ⟨fun hempty => ?_, fun hnil => by rw [hnil]; rfl⟩
    exact s.closed_or_nil.resolve_right fun hclosed => hclosed.render_ne_empty hempty
  rw [render, hdropped, render_flatMap hclosed, List.filter_map]
  simp only [Function.comp_def, ne_eq, htext]
  simp only [render, List.flatMap_singleton]

end Statement

end CrudSql

import CrudSql.Proofs.Statement

/-! The parameters of statements. Those that write rows have them row by row in their lists of values, and so
    have assignments and reported keys; the clause of a filter has those of its bindings, and no other clause
    has any. -/

namespace CrudSql
open Sql

@[simp] theorem placeholders_commaSeparated (items : List Sql) :
    (commaSeparated items).placeholders = items.flatMap Sql.placeholders := by
  cases items with
  | nil => rfl
  | cons item rest => simp [commaSeparated]

@[simp] theorem Target.placeholders_sql (target : Target) : target.sql.placeholders = [] := by
  simp [Target.sql]

@[simp] theorem placeholders_outputClause (keys : List KeyColumn) (numbered : Bool) :
    (outputClause keys numbered).placeholders = [] := by
  cases numbered <;> simp [outputClause, Atom.placeholder?]

@[simp] theorem Returned.placeholders_sql (returned : Returned) : returned.sql.placeholders = [] := by
  obtain ⟨keys, row⟩ := returned
  cases row <;> simp [Returned.sql, Atom.placeholder?]

/-! ### Reading rows -/

theorem placeholders_whereClause (setting : Setting) (filter : Option Filter) :
    (whereClause setting filter).placeholders =
      filter.elim [] fun f => (f.predicate.bindings setting.arrayThreshold f.lead).map (·.1) := by
  cases filter with
  | none => rfl
  | some filter =>
    rw [whereClause, Option.elim_some]
    split
    · rename_i hnone
      rw [filter.predicate.bindings_eq_nil _ _ (Predicate.atoms?_eq_none_iff.mp hnone)]
      rfl
    · rename_i atoms hatoms
      simpa using Predicate.placeholders_atoms hatoms

@[simp] theorem Sql.placeholders_orderBy (order : List OrderField) : (orderBy order).placeholders = [] := by
  cases order <;> simp [orderBy, Atom.placeholder?]

@[simp] theorem Expression.placeholders_atoms (expression : Expression) :
    Atom.placeholders expression.atoms = [] := by
  rcases expression with text | _ | ⟨_ | _ | _ | _, field, _ | cast⟩ <;> rfl

@[simp] theorem Projection.placeholders_sql (projection : Projection) : projection.sql.placeholders = [] := by
  cases projection <;> simp [Projection.sql]

@[simp] theorem Window.placeholders_atoms (window : Window) : Atom.placeholders window.atoms = [] := by
  cases window <;> rfl

theorem Query.placeholders_sql (setting : Setting) (query : Query) :
    (query.sql setting).placeholders = (whereClause setting query.filter).placeholders := by
  obtain ⟨top, projection, target, filter, order, window⟩ := query
  cases top <;> cases window <;> simp [Query.sql, Atom.placeholder?]

theorem NumberedQuery.placeholders_sql (setting : Setting) (query : NumberedQuery) :
    (query.sql setting).placeholders = (whereClause setting query.filter).placeholders := by
  simp [NumberedQuery.sql, Atom.placeholder?]

/-! ### Writing rows -/

/-- The parameter that an assignment reads. -/
def Assignment.placeholder? : Assignment → Option String
  | parameter field row => some (rowParameter field.name row)
  | lastInsertId _ | itself _ => none

theorem Assignment.placeholders_atoms (assignment : Assignment) :
    Atom.placeholders assignment.atoms = assignment.placeholder?.toList := by
  cases assignment <;> rfl

/-- The parameters that are assigned in a row that is already there. -/
@[simp] def Conflict.placeholders : Conflict → List String
  | onDuplicateKey assignments => assignments.filterMap (·.placeholder?)
  | fail | onConflict .. => []

@[simp] theorem Conflict.placeholders_sql (conflict : Conflict) :
    conflict.sql.placeholders = conflict.placeholders := by
  cases conflict with
  | fail => rfl
  | onConflict qualifiers updates => simp [Conflict.sql, Atom.placeholder?]
  | onDuplicateKey assignments =>
    simp [Conflict.sql, List.flatMap_map, Assignment.placeholders_atoms,
      List.filterMap_eq_flatMap_toList]

/-- The parameters of the rows from which an insert takes its values. -/
@[simp] def InsertSource.placeholders (columns : List Field) : InsertSource → List String
  | .defaults => []
  | .rows given => given.flatMap (rowParameters columns)

theorem Insert.placeholders_sql (insert : Insert) : insert.sql.placeholders =
    insert.source.placeholders insert.columns.fields ++ insert.conflict.placeholders := by
  obtain ⟨target, columns, output, overriding, source, conflict, returning⟩ := insert
  cases source with
  | defaults => simp [Insert.sql, Insert.head]
  | rows given => simp [Insert.sql, Insert.head, List.flatMap_map]

theorem Merge.placeholders_sql (merge : Merge) : merge.sql.placeholders =
    (List.range merge.rows).flatMap (rowParameters merge.source.fields) := by
  have hrow : ∀ row, (merge.sourceRow row).placeholders = rowParameters merge.source.fields row := by
    intro row
    simp [sourceRow, Atom.placeholder?]
  cases hqualifiers : merge.qualifiers with
  | none => simp [Merge.sql, hqualifiers, List.flatMap_map, hrow, Atom.placeholder?]
  | some qualifiers => simp [Merge.sql, hqualifiers, List.flatMap_map, hrow, matchAtoms, Atom.placeholder?]

/-- The parameter that a reported key reads in a row of a batch. -/
def KeyColumn.placeholder? (row : Nat) (key : KeyColumn) : Option String :=
  match key.source with
  | .supplied | .suppliedOrIdentity => some (rowParameter key.field.name row)
  | .identity | .server => none

theorem KeyColumn.placeholders_selectAtoms? (keys : List KeyColumn) (row : Nat) :
    (keys.filterMap (·.selectAtoms? row)).flatMap Atom.placeholders =
      keys.filterMap (·.placeholder? row) := by
  induction keys with
  | nil => rfl
  | cons key keys ih =>
    have hkey : ((key.selectAtoms? row).map Atom.placeholders).getD [] = (key.placeholder? row).toList := by
      unfold selectAtoms? valueAtoms? placeholder?
      cases key.source <;> rfl
    rw [List.filterMap_cons, List.filterMap_cons]
    cases hs : key.selectAtoms? row <;> cases hp : key.placeholder? row <;> simp_all

/-! ### Statements -/

namespace Statement

/-- The parameters in the text of a statement, each as often as it stands there. -/
def placeholders (setting : Setting) (statement : Statement) : List String :=
  (statement.sql setting).placeholders

variable (setting : Setting)

@[simp] theorem placeholders_insert (i : Insert) : (insert i).placeholders setting =
    i.source.placeholders i.columns.fields ++ i.conflict.placeholders :=
  i.placeholders_sql

@[simp] theorem placeholders_merge (m : Merge) : (merge m).placeholders setting =
    (List.range m.rows).flatMap (rowParameters m.source.fields) :=
  m.placeholders_sql

@[simp] theorem placeholders_update (target : Target) (updates qualifiers : FieldSet) (row : Nat) :
    (update target updates row (.matching qualifiers)).placeholders setting =
      rowParameters (updates.fields ++ qualifiers.fields) row := by
  have hmatch := Atom.flatMap_placeholders (placeholders_assignment row) qualifiers.fields
  simp [placeholders, Statement.sql, UpdateScope.sql, hmatch, rowParameters_append]

theorem placeholders_query (q : Query) :
    (query q).placeholders setting = (whereClause setting q.filter).placeholders :=
  q.placeholders_sql setting

theorem placeholders_numberedQuery (q : NumberedQuery) :
    (numberedQuery q).placeholders setting = (whereClause setting q.filter).placeholders :=
  q.placeholders_sql setting

theorem placeholders_delete (target : Target) (filter : Option Filter) :
    (delete target filter).placeholders setting = (whereClause setting filter).placeholders := by
  simp [placeholders, Statement.sql]

theorem placeholders_update_filtered (target : Target) (updates : FieldSet) (row : Nat)
    (filter : Option Filter) : (update target updates row (.filtered filter)).placeholders setting =
      rowParameters updates.fields row ++ (whereClause setting filter).placeholders := by
  simp [placeholders, Statement.sql, UpdateScope.sql]

@[simp] theorem placeholders_identityInsert (table : Ident) (on : Bool) :
    (identityInsert table on).placeholders setting = [] := by
  simp [placeholders, Statement.sql]

@[simp] theorem placeholders_selectKeys (keys : List KeyColumn) (row : Nat) (numbered : Bool) :
    (selectKeys keys row numbered).placeholders setting = keys.filterMap (·.placeholder? row) := by
  rw [← KeyColumn.placeholders_selectAtoms?, placeholders, Statement.sql]
  split
  · rename_i hnil
    rw [hnil]
    rfl
  · cases numbered <;> simp [Atom.placeholder?]

end Statement

/-- An engine meets in the text of a script the parameters of its statements. -/
theorem ProperScript.read_render {setting : Setting} {statements : List Statement}
    (h : ProperScript statements) (hm : setting.marks.IsStandard) :
    ∃ tokens, setting.marks.read (Statement.render setting statements).toList = some tokens ∧
      tokens.filterMap (·.placeholder?) = statements.flatMap (·.placeholders setting) := by
  have hscript : Script (statements.flatMap (·.sql setting)) := h.script
  refine ⟨_, Sql.read_render hscript.sound hm, ?_⟩
  rw [hscript.sound.filterMap_tokens, Sql.placeholders_flatMap]
  rfl

end CrudSql

import CrudSql.Proofs.Predicate.Text
import CrudSql.Statement

/-! Statements as an engine reads them. Every clause is neat; a statement without hints and with numbers
    that are not negative is a script of its own, which ends outside all parentheses with a semicolon. -/

namespace CrudSql

/-! ### Scripts -/

namespace Sql
variable {a b sql : Sql}

/-- Pieces that read as they stand, from outside all parentheses to outside them, and that end a
    statement, if there are any. -/
structure Script (sql : Sql) : Prop where
  sound : sql.Sound
  nesting : Token.nesting 0 sql.tokens = some 0
  ends : sql = [] ∨ sql.tokens.getLast? = some (.mark ';')

theorem Script.nil : Script [] := ⟨Neat.nil.sound, rfl, Or.inl rfl⟩

theorem Neat.script (h : Neat sql) : Script (sql ++ stop) where
  sound := h.sound.append (by simp [Sound, stop, Piece.Sound])
  nesting := by
    rw [tokens_append, Token.nesting_append, h.level]
    rfl
  ends := by
    rw [tokens_append]
    exact Or.inr List.getLast?_concat

theorem Script.append (ha : Script a) (hb : Script b) : Script (a ++ b) where
  sound := ha.sound.append hb.sound
  nesting := by
    rw [tokens_append, Token.nesting_append, ha.nesting]
    exact hb.nesting
  ends := by
    rcases hb.ends with rfl | hends
    · rw [List.append_nil]
      exact ha.ends
    · rw [tokens_append, List.getLast?_append, hends]
      exact Or.inr rfl

theorem Script.flatMap {α : Type} {f : α → Sql} {l : List α} (h : ∀ x ∈ l, Script (f x)) :
    Script (l.flatMap f) := by
  induction l with
  | nil => exact .nil
  | cons x l ih =>
    simp only [List.forall_mem_cons] at h
    exact h.1.append (ih h.2)

/-! ### Parameters of rows -/

theorem neat_parameters (fields : List Field) (row : Nat) : Neat (parameters fields row) :=
  .list_map fun field _ => Atom.neat_placeholder (isParameterChar_rowParameter field.name row)

theorem neat_assignment (row : Nat) (field : Field) : Atom.Neat (assignment row field) := by
  have hname := isParameterChar_rowParameter field.name row
  exact Atom.neat_of_sound (by simpa [assignment, Atom.Sound, phrases] using hname)

theorem neat_assignments (fields : List Field) (row : Nat) : Neat (assignments fields row) :=
  .list_map fun field _ => neat_assignment row field

end Sql

open Sql

theorem neat_commaSeparated {α : Type} {f : α → Sql} {l : List α} (h : ∀ x ∈ l, Neat (f x)) :
    Neat (commaSeparated (l.map f)) := by
  have hitems := List.forall_mem_map.mpr h
  cases hmap : l.map f with
  | nil => exact .nil
  | cons item rest =>
    simp only [hmap, List.forall_mem_cons] at hitems
    exact hitems.1.append (.flatMap fun next hnext => neat_comma.append (hitems.2 next hnext))

theorem Target.neat_sql {target : Target} (h : target.hints = none) : Neat target.sql := by
  rw [Target.sql, h]
  exact (neat_path target.table).append .nil

/-! ### Queries -/

/-- Expressions with the texts of a dialect. -/
def Expression.Known : Expression → Prop
  | count text => text ∈ ["COUNT(*)", "COUNT_BIG(1)"]
  | one => True
  | aggregate _ _ cast => ∀ type ∈ cast, type ∈ ["FLOAT", "DOUBLE PRECISION"]

theorem Expression.Known.neat_atoms {expression : Expression} (h : expression.Known) :
    Atom.Neat expression.atoms := by
  cases expression with
  | count text =>
    simp only [Known, List.mem_cons, List.not_mem_nil, or_false] at h
    rcases h with rfl | rfl
    all_goals exact Atom.neat_fixed (by simp [phrases]) fun _ => rfl
  | one => exact Atom.neat_fixed (by simp [phrases]) fun _ => rfl
  | aggregate function field cast =>
    cases cast with
    | none =>
      cases function
      all_goals exact Atom.neat_of_sound (by simp [atoms, Atom.Sound, phrases])
    | some type =>
      have htype := h type rfl
      simp only [List.mem_cons, List.not_mem_nil, or_false] at htype
      rcases htype with rfl | rfl <;> cases function
      all_goals exact Atom.neat_of_sound (by simp [atoms, Atom.Sound, phrases])

/-- A value that is projected has a known type to be cast to, if it is cast. -/
def Projection.Known : Projection → Prop
  | fields _ => True
  | value expression _ => expression.Known

theorem Projection.Known.neat_sql {projection : Projection} (h : projection.Known) : Neat projection.sql := by
  cases projection with
  | fields set => exact neat_columns set.fields
  | value expression label =>
    have hexpression : expression.Known := h
    exact (neat_token hexpression.neat_atoms).append (neat_named label)

/-- No number of the window is negative. -/
def Window.Proper : Window → Prop
  | limit _ => True
  | offsetFetch skip take | limitOffset take skip | limitAfter skip take => 0 ≤ skip ∧ 0 ≤ take
  | limitOnly take => 0 ≤ take

theorem Window.Proper.neat_atoms {window : Window} (h : window.Proper) : Atom.Neat window.atoms where
  sound := by
    cases window
    all_goals simp_all [atoms, Atom.Sound, phrases, Proper]
  apart := by
    cases window
    all_goals exact of_decide_eq_true rfl
  level := by
    cases window
    all_goals exact fun _ => rfl

/-- The text before the parameters of a filter belongs to their names. -/
def Filter.Proper (filter : Option Filter) : Prop :=
  ∀ f ∈ filter, ∀ c ∈ f.lead.toList, isParameterChar c = true

namespace Query
variable {setting : Setting} {query : Query}

/-- A query without hints, with a known expression and numbers that are not negative. -/
structure Proper (query : Query) : Prop where
  hints : query.target.hints = none
  projection : query.projection.Known
  filter : Filter.Proper query.filter
  window : ∀ window ∈ query.window, window.Proper

theorem Proper.script (h : query.Proper) : Script (query.sql setting) := by
  refine ((((((((neat_word "SELECT").append ?top).append h.projection.neat_sql).append
    (neat_word "FROM")).append (Target.neat_sql h.hints)).append (neat_whereClause h.filter)).append
    (neat_orderBy query.order)).append ?window).script
  case top =>
    split
    · exact neat_token Atom.neat_of_sound
    · exact .nil
  case window =>
    split
    · rename_i window hwindow
      exact neat_token (h.window window hwindow).neat_atoms
    · exact .nil

end Query

namespace NumberedQuery
variable {setting : Setting} {query : NumberedQuery}

/-- There are no hints, parameters have proper names, and the range has no negative number. -/
structure Proper (query : NumberedQuery) : Prop where
  hints : query.target.hints = none
  filter : Filter.Proper query.filter
  first : 0 ≤ query.first
  last : 0 ≤ query.last

theorem Proper.script (h : query.Proper) : Script (query.sql setting) := by
  have hnumbered : Neat (word "SELECT" ++ word "ROW_NUMBER() OVER" ++ parenthesized (orderBy query.order) ++
      named rowNumber ++ comma ++ Sql.columns query.fields.fields ++ word "FROM" ++ query.target.sql ++
      whereClause setting query.filter) :=
    ((((((((neat_word "SELECT").append (neat_word "ROW_NUMBER() OVER")).append
      (neat_orderBy query.order).parenthesized).append (neat_named rowNumber)).append neat_comma).append
      (neat_columns query.fields.fields)).append (neat_word "FROM")).append (Target.neat_sql h.hints)).append
      (neat_whereClause h.filter)
  have hrange : Atom.Neat [.fixed "WHERE (", .name rowNumber, .fixed " BETWEEN ", .number query.first,
      .fixed " AND ", .number query.last, .fixed ")"] :=
    Atom.neat_of_sound (by simpa [Atom.Sound, phrases] using ⟨h.first, h.last⟩)
  exact ((((((((neat_word "WITH CTE AS").append hnumbered.parenthesized).append (neat_word "SELECT")).append
    (neat_columns query.fields.fields)).append (neat_word "FROM")).append (neat_word "CTE")).append
    (neat_token hrange)).append (neat_orderBy query.order)).script

end NumberedQuery

/-! ### Inserts and merges -/

theorem Assignment.neat_atoms (assignment : Assignment) : Atom.Neat assignment.atoms := by
  cases assignment with
  | lastInsertId field | itself field =>
    exact Atom.neat_of_sound (by simp [atoms, Atom.Sound, phrases]) (of_decide_eq_true rfl) fun _ => rfl
  | parameter field row => exact neat_assignment row field

theorem Conflict.neat_sql (conflict : Conflict) : Neat conflict.sql := by
  cases conflict with
  | fail => exact .nil
  | onConflict qualifiers updates =>
    have htarget := neat_word "ON CONFLICT" (by simp [phrases]) fun _ => rfl
    have hnothing := neat_word "DO NOTHING" (by simp [phrases]) fun _ => rfl
    have hupdate := neat_word "DO UPDATE SET" (by simp [phrases]) fun _ => rfl
    refine (htarget.append (neat_columns _).parenthesized).append (.ite hnothing ?_)
    refine hupdate.append (.list_map fun field _ => ?_)
    exact Atom.neat_of_sound (by simp [Atom.Sound, phrases]) (of_decide_eq_true rfl) fun _ => rfl
  | onDuplicateKey assignments =>
    have hupdate := neat_word "ON DUPLICATE KEY UPDATE" (by simp [phrases]) fun _ => rfl
    exact hupdate.append (.list_map fun assignment _ => assignment.neat_atoms)

theorem neat_rowNumber (row : Nat) : Neat [.token [.number row]] :=
  neat_token (Atom.neat_number (Int.natCast_nonneg row))

theorem Returned.neat_sql (returned : Returned) : Neat returned.sql := by
  have hreturning := neat_word "RETURNING" (by simp [phrases]) fun _ => rfl
  refine .ite .nil ((hreturning.append (neat_columns _)).append ?_)
  split
  · rename_i row _
    exact (neat_comma.append (neat_rowNumber row)).append (neat_named orderColumn)
  · exact .nil

theorem neat_outputClause (keys : List KeyColumn) (numbered : Bool) : Neat (outputClause keys numbered) := by
  have houtput := neat_word "OUTPUT" (by simp [phrases]) fun _ => rfl
  refine .ite .nil (houtput.append (.list fun item hitem => ?_))
  rcases List.mem_append.mp hitem with hitem | hitem
  · obtain ⟨key, -, rfl⟩ := List.mem_map.mp hitem
    exact Atom.neat_of_sound (by simp [Atom.Sound, phrases]) (of_decide_eq_true rfl) fun _ => rfl
  · cases numbered
    · cases hitem
    · cases List.mem_singleton.mp hitem
      exact Atom.neat_of_sound (by simp [Atom.Sound, phrases]) (of_decide_eq_true rfl) fun _ => rfl

namespace Insert
variable {insert : Insert}

theorem neat_head {target : Target} (h : target.hints = none) (written : FieldSet) :
    Neat (head target written) := by
  have hinsert := neat_word "INSERT" (by simp [phrases]) fun _ => rfl
  have hinto := neat_word "INTO" (by simp [phrases]) fun _ => rfl
  exact ((hinsert.append hinto).append (Target.neat_sql h)).append
    (.ite .nil (neat_columns written.fields).parenthesized)

theorem script_sql (h : insert.target.hints = none) : Script insert.sql := by
  refine ((((((neat_head h insert.columns).append (neat_outputClause insert.output false)).append
    (.ite (neat_word "OVERRIDING SYSTEM VALUE") .nil)).append ?source).append insert.conflict.neat_sql).append
    insert.returning.neat_sql).script
  case source =>
    split
    · exact neat_word "DEFAULT VALUES"
    · exact (neat_word "VALUES").append (neat_commaSeparated fun row _ =>
        (neat_parameters insert.columns.fields row).parenthesized)

end Insert

namespace Merge
variable {merge : Merge}

theorem neat_sourceRow (merge : Merge) (row : Nat) : Neat (merge.sourceRow row) :=
  ((neat_parameters merge.source.fields row).append
    (.ite (neat_comma.append (neat_rowNumber row)) .nil)).parenthesized

theorem neat_matchAtoms (field : Field) : Atom.Neat (matchAtoms field) :=
  Atom.neat_of_sound (by simp [matchAtoms, Atom.Sound, phrases]) (of_decide_eq_true rfl) fun _ => rfl

theorem script_sql (h : merge.target.hints = none) : Script merge.sql := by
  have hrows : Neat (commaSeparated ((List.range merge.rows).map merge.sourceRow)) :=
    neat_commaSeparated fun row _ => merge.neat_sourceRow row
  have hprefixed : ∀ fields : List Field,
      Neat (aliasedColumns "S" fields) := fun fields =>
    .list_map fun field _ => Atom.neat_of_sound
  have hassigned : ∀ fields : List Field, Neat (list (fields.map fun field =>
      [.fixed "T.", .name field.name, .fixed " = S.", .name field.name])) := fun fields =>
    .list_map fun field _ => Atom.neat_of_sound
  have hinserted := Neat.ite (p := merge.columns.isEmpty = true) (neat_word "DEFAULT VALUES")
    (((neat_columns merge.columns.fields).parenthesized.append (neat_word "VALUES")).append
      (hprefixed merge.columns.fields).parenthesized)
  have hupdated := Neat.ite (p := merge.updates.isEmpty = true) .nil
    ((neat_word "WHEN MATCHED THEN UPDATE SET").append (hassigned merge.updates.fields))
  have hlabels := ((neat_columns merge.source.fields).append (.ite (p := merge.numbered = true)
    (neat_comma.append (neat_quoted orderColumn)) .nil)).parenthesized
  refine (((((((((((neat_word "MERGE").append (Target.neat_sql h)).append (neat_word "AS T USING")).append
    ((neat_word "VALUES").append hrows).parenthesized).append (neat_word "AS S")).append hlabels).append
    ?matched).append (neat_word "WHEN NOT MATCHED THEN INSERT")).append hinserted).append hupdated).append
    (neat_outputClause merge.output merge.numbered)).script
  case matched =>
    split
    · exact neat_word "ON 1=0"
    · exact (neat_word "ON").append
        (neat_token (.separated_map (fun field _ => neat_matchAtoms field) (by simp)))

end Merge

/-! ### All statements -/

theorem KeyColumn.neat_selectAtoms? {row : Nat} {key : KeyColumn} {item : List Atom}
    (h : key.selectAtoms? row = some item) : Atom.Neat item := by
  obtain ⟨value, hvalue, rfl⟩ := Option.map_eq_some_iff.mp h
  have hname := isParameterChar_rowParameter key.field.name row
  cases hsource : key.source <;> rw [valueAtoms?, hsource] at hvalue <;> cases hvalue
  · exact Atom.neat_of_sound (by simp [Atom.Sound, phrases]) (of_decide_eq_true rfl) fun _ => rfl
  · exact Atom.neat_of_sound (by simpa [Atom.Sound, phrases] using hname) (of_decide_eq_true rfl) fun _ => rfl
  · exact Atom.neat_of_sound (by simpa [Atom.Sound, phrases] using hname) (of_decide_eq_true rfl) fun _ => rfl

namespace Statement
variable {setting : Setting} {statement : Statement}

/-- A statement without hints, with known expressions and numbers that are not negative. -/
def Proper : Statement → Prop
  | query q => q.Proper
  | numberedQuery q => q.Proper
  | delete target filter | update target _ _ (.filtered filter) => target.hints = none ∧ Filter.Proper filter
  | update target _ _ (.matching _) => target.hints = none
  | insert i => i.target.hints = none
  | merge m => m.target.hints = none
  | truncate .. | selectKeys .. | identityInsert .. => True

theorem script_update {target : Target} {updates : FieldSet} {row : Nat} {scope : UpdateScope}
    (ht : target.hints = none) (hs : Neat (scope.sql setting row)) :
    Script ((update target updates row scope).sql setting) := by
  have hupdate := neat_word "UPDATE" (by simp [phrases]) fun _ => rfl
  have hset := neat_word "SET" (by simp [phrases]) fun _ => rfl
  exact ((((hupdate.append (Target.neat_sql ht)).append hset).append
    (neat_assignments updates.fields row)).append hs).script

/-- Every statement starts and ends outside all parentheses and quotes, behind a semicolon. -/
theorem Proper.script (h : statement.Proper) : Script (statement.sql setting) := by
  cases statement with
  | query q => exact Query.Proper.script h
  | numberedQuery q => exact NumberedQuery.Proper.script h
  | delete target filter =>
    exact ((((neat_word "DELETE").append (neat_word "FROM")).append (Target.neat_sql h.1)).append
      (neat_whereClause h.2)).script
  | truncate table restartIdentity =>
    exact (((neat_word "TRUNCATE TABLE").append (neat_path table)).append
      (.ite (neat_word "RESTART IDENTITY") .nil)).script
  | update target updates row scope =>
    cases scope with
    | filtered filter => exact script_update h.1 (neat_whereClause h.2)
    | matching qualifiers =>
      exact script_update h ((neat_word "WHERE").append
        (neat_token (.separated_map (fun field _ => neat_assignment row field) (by simp))).parenthesized)
  | insert i => exact Insert.script_sql h
  | merge m => exact Merge.script_sql h
  | selectKeys keys row numbered =>
    rw [sql]
    split
    · exact .nil
    · rename_i items _
      refine ((neat_word "SELECT").append (.list fun item hitem => ?_)).script
      rcases List.mem_append.mp hitem with hitem | hitem
      · obtain ⟨key, -, hkey⟩ := List.mem_filterMap.mp hitem
        exact KeyColumn.neat_selectAtoms? hkey
      · cases numbered
        · cases hitem
        · cases List.mem_singleton.mp hitem
          exact Atom.neat_of_sound
  | identityInsert table on =>
    have hswitch := (((neat_word "BEGIN TRY SET IDENTITY_INSERT").append (neat_path table)).append
      (show Neat (word (if on then "ON" else "OFF")) by cases on <;> exact neat_word _)).script
    simpa only [sql, List.append_assoc] using
      hswitch.append (neat_word "END TRY BEGIN CATCH END CATCH").script

/-- Whether a statement has a text whatever its keys are. -/
def IsWritten : Statement → Prop
  | selectKeys .. => False
  | _ => True

theorem IsWritten.sql_ne_nil (h : statement.IsWritten) : statement.sql setting ≠ [] := by
  have hstop : ∀ a : Sql, a ++ stop ≠ [] := fun a => List.append_ne_nil_of_right_ne_nil a (by simp [stop])
  cases statement with
  | selectKeys => cases h
  | query | numberedQuery | delete | truncate | update | insert | merge | identityInsert => exact hstop _

end Statement

/-- Proper statements, one of which is written whatever its keys are. -/
structure ProperScript (statements : List Statement) : Prop where
  proper : ∀ s ∈ statements, s.Proper
  written : ∃ s ∈ statements, s.IsWritten

namespace ProperScript
variable {setting : Setting} {statement : Statement} {a b statements : List Statement}

theorem single (hp : statement.Proper) (hw : statement.IsWritten) : ProperScript [statement] :=
  ⟨by simpa using hp, statement, List.mem_singleton_self _, hw⟩

theorem append (ha : ProperScript a) (hb : ∀ s ∈ b, s.Proper) : ProperScript (a ++ b) where
  proper s hs := (List.mem_append.mp hs).elim (ha.proper s) (hb s)
  written := by
    obtain ⟨s, hs, hw⟩ := ha.written
    exact ⟨s, List.mem_append_left b hs, hw⟩

theorem script (h : ProperScript statements) : Script (statements.flatMap (·.sql setting)) :=
  .flatMap fun s hs => (h.proper s hs).script

theorem sound (h : ProperScript statements) (setting : Setting) : Sound (statements.flatMap (·.sql setting)) :=
  h.script.sound

theorem read_tokens (h : ProperScript statements) (hm : setting.marks.IsReadable) :
    setting.marks.read (Statement.render setting statements).toList =
      some (tokens (statements.flatMap (·.sql setting))) :=
  (h.sound setting).read_render hm

theorem flatMap_ne_nil (h : ProperScript statements) : statements.flatMap (·.sql setting) ≠ [] := by
  intro hnil
  obtain ⟨s, hs, hw⟩ := h.written
  exact hw.sql_ne_nil (List.flatMap_eq_nil_iff.mp hnil s hs)

end ProperScript

end CrudSql

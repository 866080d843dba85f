import CrudSql.Proofs.Correlated
import CrudSql.Proofs.Statement.Target

/-! Batches of more rows. A batch that passes its checks passes them with fewer rows too. Where each row has
    statements of its own, these do not depend on how many rows follow, as long as there are several; so the
    text of a batch starts with the text of a shorter one. -/

namespace CrudSql
open Sql

/-! ### Checks -/

namespace InsertPlan.Accepted
variable {engine : Engine} {request : InsertRequest} {plan : InsertPlan} {m n : Nat}

theorem withRows (h : Accepted engine { request with rows := n } n plan) (hm : 0 < m) (hmn : m ≤ n) :
    Accepted engine { request with rows := m } m { plan with rows := m } :=
  { h with
    batch := rfl
    hasRows := Check.rows_eq_ok_iff.mpr (Nat.ne_of_gt hm)
    limit := Check.parameterLimit_of_le hmn h.limit
    names := Check.parameterNames_of_le hmn h.names }

end InsertPlan.Accepted

namespace MergePlan.Accepted
variable {engine : Engine} {request : MergeRequest} {plan : MergePlan} {m n : Nat}

theorem withRows (h : Accepted engine { request with rows := n } n plan) (hm : 0 < m) (hmn : m ≤ n) :
    Accepted engine { request with rows := m } m { plan with rows := m } :=
  { h with
    batch := rfl
    hasRows := Check.rows_eq_ok_iff.mpr (Nat.ne_of_gt hm)
    limit := Check.parameterLimit_of_le hmn h.limit
    names := Check.parameterNames_of_le hmn h.names }

end MergePlan.Accepted

namespace UpdatePlan.AcceptedRows
variable {engine : Engine} {request : UpdateRequest} {plan : UpdatePlan} {m n : Nat}

theorem withRows (h : AcceptedRows engine { request with rows := n } plan) (hm : 0 < m) (hmn : m ≤ n) :
    AcceptedRows engine { request with rows := m } { plan with rows := m } :=
  { h with
    batch := rfl
    hasRows := Check.rows_eq_ok_iff.mpr (Nat.ne_of_gt hm)
    limit := Check.parameterLimit_of_le hmn h.limit
    names := Check.parameterNames_of_le hmn h.names }

end UpdatePlan.AcceptedRows

/-! ### Rows -/

/-- The statements that write one row: an update, an insert that returns the number of the row with its keys, or
    an insert and the query of its keys with the number of the row. -/
inductive IsRowGroup (row : Nat) : List Statement → Prop
  | update (target : Target) (updates qualifiers : FieldSet) :
    IsRowGroup row [.update target updates row (.matching qualifiers)]
  | returning (i : Insert) (hs : i.source = .defaults ∨ i.source = .rows [row])
    (hr : i.returning.row = some row) : IsRowGroup row [.insert i]
  | selected (i : Insert) (keys : List KeyColumn) (hs : i.source = .rows [row]) :
    IsRowGroup row [.insert i, .selectKeys keys row true]

namespace Statement
variable {setting : Setting} {group : Nat → List Statement} {m n : Nat}

theorem closed_of_isRowGroup {row : Nat} {statements : List Statement} (h : IsRowGroup row statements) :
    Closed setting (statements.flatMap (·.sql setting)) := by
  cases h <;> exact closed_cons (by trivial) _

/-- More rows are appended, each after a space. -/
theorem render_range_of_le (h : ∀ row, Closed setting ((group row).flatMap (·.sql setting))) (hm : 0 < m)
    (hmn : m ≤ n) : render setting ((List.range n).flatMap group) =
      render setting ((List.range m).flatMap group) ++
        String.join ((List.range' m (n - m)).map fun row => " " ++ render setting (group row)) := by
  obtain ⟨more, rfl⟩ := Nat.exists_eq_add_of_le hmn
  rw [Nat.add_sub_cancel_left]
  clear hmn
  induction more with
  | zero => simp
  | succ more ih =>
    have hrows : List.range (m + more) ≠ [] := by
      rw [ne_eq, List.range_eq_nil]
      omega
    have hfront := closed_flatMap hrows fun row _ => h row
    rw [← Nat.add_assoc, List.range_succ, render, List.flatMap_append, List.flatMap_append, List.flatMap_assoc,
      List.flatMap_singleton, hfront.render_append (h (m + more)), List.range'_1_concat, List.map_append,
      String.join_append, ← String.append_assoc, ← ih, render, List.flatMap_assoc]
    simp [String.append_assoc, render]

/-- The text of a row starts with the keywords of its first statement. -/
theorem exists_keyword_of_isRowGroup (setting : Setting) {row : Nat} {statements : List Statement}
    (h : IsRowGroup row statements) :
    ∃ keyword ∈ ["INSERT INTO", "UPDATE"], ∃ rest, render setting statements = keyword ++ rest := by
  have hinsert : Sql.render setting (word "INSERT" ++ word "INTO") = "INSERT INTO" := rfl
  have hupdate : Sql.render setting (word "UPDATE") = "UPDATE" := rfl
  cases h with
  | update target updates qualifiers =>
    refine ⟨"UPDATE", by simp, ?_⟩
    rw [render, List.flatMap_singleton, sql, ← hupdate]
    simp only [List.append_assoc]
    exact exists_render_append _ _ _
  | returning i | selected i =>
    refine ⟨"INSERT INTO", by simp, ?_⟩
    rw [render, List.flatMap_cons, sql, Insert.sql_eq, Insert.front, ← hinsert]
    simp only [List.append_assoc (word "INSERT" ++ word "INTO")]
    exact exists_render_append _ _ _

end Statement

/-! ### Dialects -/

namespace Engine
variable {engine : Engine} {rows row : Nat}

/-- The statements for a row of an insert where each row has its own. -/
def insertGroup (engine : Engine) (plan : InsertPlan) (row : Nat) : List Statement :=
  match engine.dialect with
  | .sqlServer => []
  | .postgreSql => [PostgreSql.insertRow plan row]
  | .mySql => MySql.insertRow plan row

/-- The statements for a row of a merge where each row has its own. -/
def mergeGroup (engine : Engine) (plan : MergePlan) (row : Nat) : List Statement :=
  match engine.dialect with
  | .sqlServer => []
  | .postgreSql => [PostgreSql.mergeRow plan row]
  | .mySql => MySql.mergeRow plan row

theorem insertStatements_eq_flatMap (hd : engine.dialect ≠ .sqlServer) (plan : InsertPlan) :
    engine.insertStatements plan = (List.range plan.rows).flatMap (engine.insertGroup plan) := by
  unfold insertStatements insertGroup
  cases hdialect : engine.dialect with
  | sqlServer => exact absurd hdialect hd
  | postgreSql => exact List.map_eq_flatMap
  | mySql => rfl

theorem mergeStatements_eq_flatMap (hd : engine.dialect ≠ .sqlServer) (plan : MergePlan) :
    engine.mergeStatements plan = (List.range plan.rows).flatMap (engine.mergeGroup plan) := by
  unfold mergeStatements mergeGroup
  cases hdialect : engine.dialect with
  | sqlServer => exact absurd hdialect hd
  | postgreSql => exact List.map_eq_flatMap
  | mySql => rfl

/-- Of several rows, each is written in the same way however many there are. -/
theorem insertGroup_congr {plan : InsertPlan} (hp : 1 < plan.rows) (hr : 1 < rows) :
    engine.insertGroup { plan with rows } row = engine.insertGroup plan row := by
  unfold insertGroup
  cases engine.dialect with
  | sqlServer => rfl
  | postgreSql => simp only [PostgreSql.insertRow, PostgreSql.returned, if_pos hp, if_pos hr]
  | mySql => simp only [MySql.insertRow, decide_eq_true hp, decide_eq_true hr]

theorem mergeGroup_congr {plan : MergePlan} (hp : 1 < plan.rows) (hr : 1 < rows) :
    engine.mergeGroup { plan with rows } row = engine.mergeGroup plan row := by
  unfold mergeGroup
  cases engine.dialect with
  | sqlServer => rfl
  | postgreSql =>
    simp only [PostgreSql.mergeRow, PostgreSql.returned, if_pos hp, if_pos hr]
    rfl
  | mySql =>
    simp only [MySql.mergeRow, decide_eq_true hp, decide_eq_true hr]
    rfl

theorem isRowGroup_insertGroup (hd : engine.dialect ≠ .sqlServer) {plan : InsertPlan} (hp : 1 < plan.rows)
    (row : Nat) : IsRowGroup row (engine.insertGroup plan row) := by
  unfold insertGroup
  cases hdialect : engine.dialect with
  | sqlServer => exact absurd hdialect hd
  | postgreSql =>
    refine .returning _ ?_ (if_pos hp)
    dsimp only
    split
    · exact Or.inl rfl
    · exact Or.inr rfl
  | mySql =>
    rw [MySql.insertRow, decide_eq_true hp]
    exact .selected _ _ rfl

theorem isRowGroup_mergeGroup (hd : engine.dialect ≠ .sqlServer) {plan : MergePlan} (hp : 1 < plan.rows)
    (row : Nat) : IsRowGroup row (engine.mergeGroup plan row) := by
  unfold mergeGroup
  cases hdialect : engine.dialect with
  | sqlServer => exact absurd hdialect hd
  | postgreSql => exact .returning _ (Or.inr rfl) (if_pos hp)
  | mySql =>
    rw [MySql.mergeRow, decide_eq_true hp]
    exact .selected _ _ rfl

end Engine

/-! ### Requests -/

namespace Request

/-- Requests that say for how many rows they are. -/
def SaysRows : Request → Prop
  | insertAll _ | updateAll _ | mergeAll _ => True
  | _ => False

/-- The same request for so many rows. -/
def withRows (rows : Nat) : Request → Request
  | insertAll request => insertAll { request with rows }
  | updateAll request => updateAll { request with rows }
  | mergeAll request => mergeAll { request with rows }
  | request => request

/-- Whether each of so many rows has statements of its own, numbered as those of several. -/
def IsRowByRow (engine : Engine) (rows : Nat) : Request → Prop
  | updateAll _ => True
  | insertAll _ | mergeAll _ => engine.dialect ≠ .sqlServer ∧ 1 < rows
  | _ => False

end Request

namespace Engine
variable {engine : Engine} {request : Request} {m n : Nat} {statements : List Statement}

/-- Two batches of a request that consist of the same statements row by row. -/
def SharesRows (group : Nat → List Statement) (m n : Nat) (shorter longer : List Statement) : Prop :=
  (∀ row, IsRowGroup row (group row)) ∧ shorter = (List.range m).flatMap group ∧
    longer = (List.range n).flatMap group

theorem exists_statements_withRows (hr : request.SaysRows) (hm : 0 < m) (hmn : m ≤ n)
    (h : (engine.statements (request.withRows n)).outcome = .ok statements) :
    ∃ shorter, (engine.statements (request.withRows m)).outcome = .ok shorter ∧
      (request.IsRowByRow engine m → ∃ group, SharesRows group m n shorter statements) := by
  cases request with
  | insertAll request =>
    obtain ⟨plan, hplan, rfl⟩ := insert_eq_ok_iff.mp h
    have hfewer := hplan.withRows hm hmn
    refine ⟨_, insert_eq_ok_iff.mpr ⟨_, hfewer, rfl⟩, ?_⟩
    rintro ⟨hd, hseveral⟩
    have hplanned : plan.rows = n := hplan.batch
    have hp : 1 < plan.rows := by omega
    refine ⟨engine.insertGroup plan, isRowGroup_insertGroup hd hp, ?_, ?_⟩
    · rw [insertStatements_eq_flatMap hd]
      exact List.flatMap_congr fun row _ => insertGroup_congr hp hseveral
    · rw [insertStatements_eq_flatMap hd, hplanned]
  | mergeAll request =>
    obtain ⟨plan, hplan, rfl⟩ := merge_eq_ok_iff.mp h
    have hfewer := hplan.withRows hm hmn
    refine ⟨_, merge_eq_ok_iff.mpr ⟨_, hfewer, rfl⟩, ?_⟩
    rintro ⟨hd, hseveral⟩
    have hplanned : plan.rows = n := hplan.batch
    have hp : 1 < plan.rows := by omega
    refine ⟨engine.mergeGroup plan, isRowGroup_mergeGroup hd hp, ?_, ?_⟩
    · rw [mergeStatements_eq_flatMap hd]
      exact List.flatMap_congr fun row _ => mergeGroup_congr hp hseveral
    · rw [mergeStatements_eq_flatMap hd, hplanned]
  | updateAll request =>
    obtain ⟨plan, hplan, rfl⟩ := updateAll_eq_ok_iff.mp h
    have hfewer := hplan.withRows hm hmn
    refine ⟨_, updateAll_eq_ok_iff.mpr ⟨_, hfewer, rfl⟩, fun _ => ?_⟩
    have hplanned : plan.rows = n := hplan.batch
    refine ⟨fun row => [.update plan.target plan.updates row (.matching plan.qualifiers)],
      fun row => .update _ _ _, List.map_eq_flatMap, ?_⟩
    rw [hplanned]
    exact List.map_eq_flatMap
  | _ => cases hr

/-- A batch grows by appending rows. If it is built for `n` rows, it is built for any fewer rows. Where each row
    has statements of its own, as in every update row by row and in the inserts and merges of several rows on
    PostgreSQL and MySQL, both batches have the same statements row by row, and the text of the shorter is
    followed by one space and the text of the next row, as often as there are rows more. -/
theorem appends_of_build (hr : request.SaysRows) (hm : 0 < m) (hmn : m ≤ n) {longer : String}
    (h : (engine.build (request.withRows n)).outcome = .ok longer) :
    ∃ shorter, (engine.build (request.withRows m)).outcome = .ok shorter ∧
      (request.IsRowByRow engine m → ∃ group : Nat → List Statement,
        (∀ row, IsRowGroup row (group row)) ∧
        (engine.statements (request.withRows m)).outcome = .ok ((List.range m).flatMap group) ∧
        (engine.statements (request.withRows n)).outcome = .ok ((List.range n).flatMap group) ∧
        (∀ row, ∃ keyword ∈ ["INSERT INTO", "UPDATE"], ∃ rest,
          Statement.render engine.setting (group row) = keyword ++ rest) ∧
        (∀ row, ∃ front, Statement.render engine.setting (group row) = front ++ ";") ∧
        longer = shorter ++ String.join
          ((List.range' m (n - m)).map fun row => " " ++ Statement.render engine.setting (group row))) := by
  obtain ⟨statements, hstatements, rfl⟩ := build_eq_ok_iff.mp h
  obtain ⟨fewer, hfewer, hshares⟩ := exists_statements_withRows hr hm hmn hstatements
  refine ⟨_, build_eq_ok_iff.mpr ⟨fewer, hfewer, rfl⟩, fun hrows => ?_⟩
  obtain ⟨group, hgroup, rfl, rfl⟩ := hshares hrows
  have hclosed : ∀ row, Closed engine.setting ((group row).flatMap (·.sql engine.setting)) :=
    fun row => Statement.closed_of_isRowGroup (hgroup row)
  refine ⟨group, hgroup, hfewer, hstatements, fun row => ?_, fun row => (hclosed row).exists_render_eq, ?_⟩
  · exact Statement.exists_keyword_of_isRowGroup engine.setting (hgroup row)
  · exact Statement.render_range_of_le hclosed hm hmn

/-- Two rows that the server numbers, and a third one. -/
theorem appends_of_build_numbered :
    let engine : Engine := { dialect := .mySql }
    let fields : FieldSet := ⟨[{ name := "A" }], List.pairwise_singleton _ _⟩
    let columns : Columns := ⟨[{ name := "Id", isPrimary := true, isIdentity := true }]⟩
    let request : Request := .insertAll { table := "T", fields, columns }
    request.SaysRows ∧ 0 < 2 ∧ 2 ≤ 3 ∧ request.IsRowByRow engine 2 ∧
      ∃ longer, (engine.build (request.withRows 3)).outcome = .ok longer ∧
        ∃ shorter, (engine.build (request.withRows 2)).outcome = .ok shorter ∧
          ∃ group : Nat → List Statement, (∀ row, IsRowGroup row (group row)) ∧ longer = shorter ++
            String.join ((List.range' 2 1).map fun row => " " ++ Statement.render engine.setting (group row)) := by
  intro engine fields columns request
  have hr : request.SaysRows := trivial
  have hd : engine.dialect ≠ .sqlServer := by
    decide
  have hrows : request.IsRowByRow engine 2 := ⟨hd, Nat.lt_succ_self 1⟩
  have hplan : InsertPlan.Accepted engine { table := "T", fields, columns, rows := 3 } 3 {
      target := ⟨⟨["T"]⟩, none⟩
      columns := fields
      keys := [⟨{ name := "Id" }, .identity⟩]
      rows := 3
      writesIdentity := false } := by
    with_unfolding_all decide
  have hstatements : (engine.statements (request.withRows 3)).outcome = .ok _ :=
    insert_eq_ok_iff.mpr ⟨_, hplan, rfl⟩
  have hbuild := build_eq_ok_iff.mpr ⟨_, hstatements, rfl⟩
  obtain ⟨shorter, hshorter, hgrows⟩ := appends_of_build hr (by decide : 0 < 2) (by decide : 2 ≤ 3) hbuild
  obtain ⟨group, hgroup, -, -, -, -, hlonger⟩ := hgrows hrows
  exact ⟨hr, by decide, by decide, hrows, _, hbuild, shorter, hshorter, group, hgroup, hlonger⟩

end Engine

end CrudSql

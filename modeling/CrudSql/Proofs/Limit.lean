import CrudSql.Proofs.Build
import CrudSql.Proofs.Statement.Parameters

/-! The limits of an engine on filtered statements. An operation that selects rows by a filter has one
    statement; its parameters are those of the columns that it sets and, behind them, the bindings of the
    filter. Both were counted when the filter was checked. Only an update without a filter is not checked. -/

namespace CrudSql

/-- Requests for rows that a filter may select; updates only if they have a filter. -/
def Request.IsFiltered : Request → Prop
  | query _ | batchQuery .. | skipQuery .. | count _ | anyRow _ | aggregate .. | delete _ => True
  | update request => request.filter ≠ none
  | _ => False

namespace Engine
variable {engine : Engine} {filter : Option Predicate} {set : List String} {statement : Statement}

/-- The statement has the parameters that are set, and behind them those of a filter that has passed the
    check together with them. -/
def Selects (engine : Engine) (filter : Option Predicate) (set : List String) (statement : Statement) : Prop :=
  ∃ lead bindings, Check.filter engine.setting lead set.length filter = .ok bindings ∧
    statement.placeholders engine.setting = set ++ bindings.map (·.1)

theorem placeholders_filterOf (lead : String) (filter : Option Predicate) :
    (Sql.whereClause engine.setting (engine.filterOf lead filter)).placeholders =
      (filterBindings engine.setting.arrayThreshold lead filter).map (·.1) := by
  rw [placeholders_whereClause]
  cases filter <;> rfl

theorem filter_limited (limit : Option Nat) (query : Query) : (engine.limited limit query).filter = query.filter := by
  unfold limited
  split <;> rfl

theorem selects_of_checked {lead : String} {bindings : List (String × Value)}
    (h : Check.filter engine.setting lead set.length filter = .ok bindings)
    (hs : statement.placeholders engine.setting =
      set ++ (Sql.whereClause engine.setting (engine.filterOf lead filter)).placeholders) :
    engine.Selects filter set statement := by
  refine ⟨lead, bindings, h, ?_⟩
  rw [hs, placeholders_filterOf, (Check.filter_eq_ok_iff.mp h).1]

/-- What was checked is what the statement has. -/
theorem Selects.length_le (h : engine.Selects filter set statement) (hset : filter = none → set = []) :
    min (statement.placeholders engine.setting).length Check.maxCount ≤ engine.setting.maxParameters := by
  obtain ⟨lead, bindings, hchecked, hplaceholders⟩ := h
  obtain ⟨hbindings, hgiven⟩ := Check.filter_eq_ok_iff.mp hchecked
  rw [hplaceholders, List.length_append, List.length_map, Nat.add_comm]
  cases filter with
  | none =>
    rw [hbindings, hset rfl]
    exact Nat.min_le_left 0 _ |>.trans (Nat.zero_le _)
  | some given => exact (hgiven given rfl).2

theorem Selects.listsWithin (h : engine.Selects filter set statement) :
    ∀ given ∈ filter, given.ListsWithin engine.setting.maxListLength := by
  obtain ⟨lead, bindings, hchecked, -⟩ := h
  exact fun given hgiven => ((Check.filter_eq_ok_iff.mp hchecked).2 given hgiven).1

/-! ### Operations -/

theorem selects_of_scalar {expression : Expression} {label : String} {limit : Option Nat}
    {request : RowsRequest} (h : engine.scalar expression label limit request = .ok statement) :
    engine.Selects request.filter [] statement := by
  simp only [scalar, bind_eq_ok, exists_unit_eq_ok, pure_eq_ok] at h
  obtain ⟨table, -, -, bindings, hfilter, rfl⟩ := h
  refine selects_of_checked hfilter ?_
  rw [Statement.placeholders_query, filter_limited]
  rfl

theorem selects_of_query {request : QueryRequest} (h : engine.query request = .ok statement) :
    engine.Selects request.filter [] statement := by
  simp only [query, throw_bind, bind_eq_ok, exists_unit_eq_ok, ite_throw_eq_ok, pure_eq_ok] at h
  obtain ⟨table, -, -, -, -, bindings, hfilter, rfl⟩ := h
  refine selects_of_checked hfilter ?_
  rw [Statement.placeholders_query, filter_limited]
  rfl

theorem selects_of_page {request : PagedRequest} {skip take : Int}
    (h : engine.page request skip take = .ok statement) : engine.Selects request.filter [] statement := by
  obtain ⟨table, haccepts, -, rfl⟩ := page_eq_ok_iff.mp h
  obtain ⟨bindings, hfilter⟩ := haccepts.filter
  refine selects_of_checked hfilter ?_
  rw [List.nil_append]
  unfold pageStatement
  cases engine.dialect with
  | sqlServer =>
    simp only [SqlServer.page]
    split
    · rw [Statement.placeholders_query]
    · rw [Statement.placeholders_numberedQuery]
  | postgreSql => simp only [PostgreSql.page, Statement.placeholders_query]
  | mySql => simp only [MySql.page, Statement.placeholders_query]

theorem selects_of_delete {request : RowsRequest} (h : engine.delete request = .ok statement) :
    engine.Selects request.filter [] statement := by
  simp only [delete, bind_eq_ok, exists_unit_eq_ok, pure_eq_ok] at h
  obtain ⟨table, -, -, bindings, hfilter, rfl⟩ := h
  exact selects_of_checked hfilter (Statement.placeholders_delete ..)

theorem selects_of_update {request : UpdateRequest} (h : engine.update request = .ok statement) :
    ∃ set, engine.Selects request.filter set statement := by
  simp only [update, bind_eq_ok, pure_eq_ok] at h
  obtain ⟨plan, hplan, rfl⟩ := h
  obtain ⟨bindings, hfilter, -⟩ := (UpdatePlan.ofFilter_eq_ok_iff.mp hplan).filter
  have hchecked : Check.filter engine.setting updateLead (rowParameters plan.updates.fields 0).length
      request.filter = .ok bindings := by
    rwa [rowParameters, List.length_map]
  exact ⟨_, selects_of_checked hchecked (Statement.placeholders_update_filtered ..)⟩

variable {request : Request}

/-- A filtered request has one statement, and nothing is set where no filter is given. -/
theorem selects_statements (hf : request.IsFiltered) {statements : List Statement}
    (h : (engine.statements request).outcome = .ok statements) :
    ∃ set s, statements = [s] ∧ engine.Selects request.filter set s ∧ (request.filter = none → set = []) := by
  cases request with
  | query request =>
    obtain ⟨s, hs, rfl⟩ := single_eq_ok_iff.mp h
    exact ⟨[], s, rfl, selects_of_query hs, fun _ => rfl⟩
  | batchQuery request page rowsPerBatch =>
    obtain ⟨s, hs, rfl⟩ := single_eq_ok_iff.mp h
    simp only [batchQuery, throw_bind, ite_throw_eq_ok] at hs
    exact ⟨[], s, rfl, selects_of_page hs.2.2.2, fun _ => rfl⟩
  | skipQuery request skip take =>
    obtain ⟨s, hs, rfl⟩ := single_eq_ok_iff.mp h
    simp only [skipQuery, throw_bind, ite_throw_eq_ok] at hs
    exact ⟨[], s, rfl, selects_of_page hs.2.2, fun _ => rfl⟩
  | count request | anyRow request | aggregate function field request =>
    obtain ⟨s, hs, rfl⟩ := single_eq_ok_iff.mp h
    exact ⟨[], s, rfl, selects_of_scalar hs, fun _ => rfl⟩
  | delete request =>
    obtain ⟨s, hs, rfl⟩ := single_eq_ok_iff.mp h
    exact ⟨[], s, rfl, selects_of_delete hs, fun _ => rfl⟩
  | update request =>
    obtain ⟨s, hs, rfl⟩ := single_eq_ok_iff.mp h
    obtain ⟨set, hselects⟩ := selects_of_update hs
    exact ⟨set, s, rfl, hselects, fun hnone => absurd hnone hf⟩
  | _ => cases hf

/-- Filtered statements stay within the limits of the engine. The text that a built-in engine gives for a
    request without hints has no more parameters than the engine takes, each counted as often as it stands
    there and as far as counts can be told, and every list of values in the filter is as short as the engine
    asks for. -/
theorem limits_of_filtered (hb : engine.IsBuiltIn) (hh : request.hints = none) (hf : request.IsFiltered)
    {sql : String} (h : (engine.build request).outcome = .ok sql) :
    (∃ tokens, engine.setting.marks.read sql.toList = some tokens ∧
      min (tokens.filterMap (·.placeholder?)).length Check.maxCount ≤ engine.setting.maxParameters) ∧
    ∀ predicate ∈ request.filter, predicate.ListsWithin engine.setting.maxListLength := by
  obtain ⟨statements, hstatements, rfl⟩ := build_eq_ok_iff.mp h
  obtain ⟨set, s, rfl, hselects, hset⟩ := selects_statements hf hstatements
  obtain ⟨tokens, hread, hparameters⟩ := (proper_statements hb hh hstatements).read_render hb.isStandard
  refine ⟨⟨tokens, hread, ?_⟩, hselects.listsWithin⟩
  rw [hparameters, List.flatMap_singleton]
  exact hselects.length_le hset

/-- Two values of a list that may have two, under a limit of two parameters. -/
theorem limits_of_filtered_list :
    let engine : Engine :=
      { dialect := .sqlServer, setting := { Setting.sqlServer with maxParameters := 2, maxListLength := some 2 } }
    let filter : Predicate :=
      .ofCondition { field := { name := "Id" }, test := .among false [.scalar (.int 7), .scalar (.int 9)] }
    let request : Request := .delete { table := "T", filter := some filter }
    engine.IsBuiltIn ∧ request.hints = none ∧ request.IsFiltered ∧
      ∃ sql, (engine.build request).outcome = .ok sql ∧
        (∃ tokens, engine.setting.marks.read sql.toList = some tokens ∧
          min (tokens.filterMap (·.placeholder?)).length Check.maxCount ≤ 2) ∧
        filter.ListsWithin (some 2) := by
  intro engine filter request
  have hb : engine.IsBuiltIn := ⟨rfl, rfl⟩
  have hf : request.IsFiltered := trivial
  have hlists : filter.ListsWithin (some 2) := by
    rintro most ⟨⟩ condition hcondition negated values htest
    cases List.mem_singleton.mp hcondition
    cases htest
    exact Nat.le_refl 2
  have hcount : (filter.bindings none "").length = 2 := by
    simp [filter, Predicate.bindings_ofCondition, Test.slots, exceeds]
  have hchecked : Check.filter engine.setting "" 0 (some filter) = .ok (filter.bindings none "") := by
    refine Check.filter_eq_ok_iff.mpr ⟨rfl, ?_⟩
    rintro given ⟨⟩
    refine ⟨hlists, ?_⟩
    rw [hcount]
    decide
  have hdelete : engine.delete { table := "T", filter := some filter } =
      .ok (.delete ⟨⟨["T"]⟩, none⟩ (engine.filterOf "" (some filter))) := by
    have htable : Check.table "T" = .ok ⟨["T"]⟩ := by
      with_unfolding_all decide
    rw [delete, hchecked, htable]
    rfl
  have hstatements : (engine.statements request).outcome = .ok _ := single_eq_ok_iff.mpr ⟨_, hdelete, rfl⟩
  have hbuild := build_eq_ok_iff.mpr ⟨_, hstatements, rfl⟩
  obtain ⟨hparameters, hgiven⟩ := limits_of_filtered hb rfl hf hbuild
  exact ⟨hb, rfl, hf, _, hbuild, hparameters, hgiven filter rfl⟩

/-- An update of all rows may have more parameters than the engine takes. -/
theorem limit_of_update_passed :
    let engine : Engine := { dialect := .sqlServer, setting := { Setting.sqlServer with maxParameters := 1 } }
    let fields : FieldSet := ⟨[{ name := "A" }, { name := "B" }], of_decide_eq_true rfl⟩
    let request : Request := .update { table := "T", fields, columns := {} }
    let sql := "UPDATE [T] SET [A] = @A, [B] = @B;"
    engine.IsBuiltIn ∧ request.hints = none ∧ (engine.build request).outcome = .ok sql ∧
      (engine.setting.marks.read sql.toList).map (·.filterMap (·.placeholder?)) = some ["A", "B"] ∧
      engine.setting.maxParameters < ["A", "B"].dedup.length := by
  intro engine fields request sql
  have hplan : UpdatePlan.AcceptedFilter engine { table := "T", fields, columns := {} } updateLead
      { target := ⟨⟨["T"]⟩, none⟩, updates := fields } := by
    with_unfolding_all decide
  have hupdate : engine.update { table := "T", fields, columns := {} } =
      .ok (.update ⟨⟨["T"]⟩, none⟩ fields 0 (.filtered none)) := by
    rw [update, UpdatePlan.ofFilter_eq_ok_iff.mpr hplan]
    rfl
  have hstatements : (engine.statements request).outcome = .ok _ := single_eq_ok_iff.mpr ⟨_, hupdate, rfl⟩
  refine ⟨⟨rfl, rfl⟩, rfl, build_eq_ok_iff.mpr ⟨_, hstatements, ?_⟩, ?_, ?_⟩
  · with_unfolding_all decide
  · decide
  · decide

end Engine

end CrudSql

import CrudSql.Build
import CrudSql.Proofs.Plan
import CrudSql.Proofs.Statement

/-! Built statements. What an engine builds for a request without hints is a script whose names all stand
    between quotes and whose parameters have proper names; nothing else of the request is in its text. -/

namespace CrudSql
open Sql

/-! ### Requests and engines -/

/-- The hints that a request gives for its table. -/
def Request.hints : Request → Option String
  | query request => request.hints
  | batchQuery request _ _ | skipQuery request _ _ => request.hints
  | count request | anyRow request | aggregate _ _ request | delete request => request.hints
  | countAll _ hints | aggregateAll _ _ _ hints | deleteAll _ hints => hints
  | insert request | insertAll request => request.hints
  | update request | updateAll request => request.hints
  | merge request | mergeAll request => request.hints
  | truncate _ => none

/-- The filter that a request gives, if it has a place for one. -/
def Request.filter : Request → Option Predicate
  | query request => request.filter
  | batchQuery request _ _ | skipQuery request _ _ => request.filter
  | count request | anyRow request | aggregate _ _ request | delete request => request.filter
  | update request | updateAll request => request.filter
  | _ => none

namespace Engine

/-- The quotes, the parameter mark and the type of averages are those of the dialect; limits, thresholds
    and options are the caller's. -/
structure IsBuiltIn (engine : Engine) : Prop where
  marks : engine.setting.marks = engine.dialect.setting.marks
  averageType : engine.setting.averageType = engine.dialect.setting.averageType

variable {engine : Engine} {statement : Statement} {statements : List Statement} {rows : Nat}

theorem IsBuiltIn.isStandard (h : engine.IsBuiltIn) : engine.setting.marks.IsStandard := by
  rw [h.marks]
  cases engine.dialect <;> exact ⟨by decide, rfl⟩

theorem IsBuiltIn.known_aggregate (h : engine.IsBuiltIn) (function : Aggregate) (field : Field) :
    (Expression.aggregate function field engine.setting.averageType).Known := by
  rw [h.averageType]
  intro type htype
  cases hd : engine.dialect <;> rw [hd] at htype <;> cases htype <;> decide

theorem known_count (engine : Engine) : (Expression.count engine.dialect.countExpression).Known := by
  cases engine.dialect
  all_goals simp [Expression.Known, Dialect.countExpression]

theorem proper_filterOf {lead : String} (h : ∀ c ∈ lead.toList, isParameterChar c = true)
    (predicate : Option Predicate) : Filter.Proper (engine.filterOf lead predicate) := by
  rintro filter hfilter
  obtain ⟨predicate, -, rfl⟩ := Option.map_eq_some_iff.mp hfilter
  exact h

theorem proper_limited {query : Query} (h : query.Proper) (limit : Option Nat) :
    (engine.limited limit query).Proper := by
  unfold limited
  split
  · exact ⟨h.hints, h.projection, h.filter, h.window⟩
  · refine ⟨h.hints, h.projection, h.filter, ?_⟩
    rintro window ⟨⟩
    trivial
  · exact h

/-! ### Reading rows -/

theorem proper_of_scalar {expression : Expression} {label : String} {limit : Option Nat}
    {request : RowsRequest} (hh : request.hints = none) (he : expression.Known)
    (h : engine.scalar expression label limit request = .ok statement) : ProperScript [statement] := by
  simp only [scalar, bind_eq_ok, exists_unit_eq_ok, pure_eq_ok] at h
  obtain ⟨table, -, -, -, -, rfl⟩ := h
  refine .single (proper_limited ?_ limit) trivial
  exact ⟨hh, he, proper_filterOf (by simp) _, by simp⟩

theorem proper_of_query {request : QueryRequest} (hh : request.hints = none)
    (h : engine.query request = .ok statement) : ProperScript [statement] := by
  simp only [query, throw_bind, bind_eq_ok, exists_unit_eq_ok, ite_throw_eq_ok, pure_eq_ok] at h
  obtain ⟨table, -, -, -, -, -, -, rfl⟩ := h
  refine .single (proper_limited ?_ request.top) trivial
  exact ⟨hh, trivial, proper_filterOf (by simp) _, by simp⟩

/-- Nothing of a request for pages is refused, but for the numbers of the page. -/
structure AcceptsPages (engine : Engine) (request : PagedRequest) (table : Ident) : Prop where
  table : Check.table request.table = .ok table
  fields : Check.fields request.fields = .ok ()
  hints : Check.hints engine request.hints = .ok ()
  ordered : request.order.isEmpty = false
  filter : ∃ bindings, Check.filter engine.setting "" 0 request.filter = .ok bindings

/-- The statement of a dialect for a page. -/
def pageStatement (engine : Engine) (request : PagedRequest) (table : Ident) (skip take : Int) : Statement :=
  let filter := engine.filterOf "" request.filter
  match engine.dialect with
  | .sqlServer =>
    SqlServer.page engine.setting ⟨table, request.hints⟩ request.fields filter request.order skip take
  | .postgreSql => PostgreSql.page table request.fields filter request.order skip take
  | .mySql => MySql.page table request.fields filter request.order skip take

theorem page_eq_ok_iff {request : PagedRequest} {skip take : Int} :
    engine.page request skip take = .ok statement ↔ ∃ table, engine.AcceptsPages request table ∧
      skip + take ≤ maxRow ∧ statement = engine.pageStatement request table skip take := by
  simp only [page, throw_bind, bind_eq_ok, exists_unit_eq_ok, ite_throw_eq_ok, pure_eq_ok]
  refine exists_congr fun table => ?_
  constructor
  · rintro ⟨htable, hfields, hhints, hordered, hfits, bindings, hfilter, rfl⟩
    exact ⟨⟨htable, hfields, hhints, Bool.eq_false_iff.mpr hordered, bindings, hfilter⟩,
      Int.not_lt.mp hfits, rfl⟩
  · rintro ⟨⟨htable, hfields, hhints, hordered, bindings, hfilter⟩, hfits, rfl⟩
    exact ⟨htable, hfields, hhints, Bool.eq_false_iff.mp hordered, Int.not_lt.mpr hfits, bindings, hfilter,
      rfl⟩

theorem SqlServer.saturate_nonneg {number : Int} (h : 0 ≤ number) : 0 ≤ SqlServer.saturate number :=
  le_max_of_le_right (le_min h (by decide))

/-- A page after rows that are skipped, whose numbers are not negative. -/
theorem proper_of_page {request : PagedRequest} {skip take : Int} (hh : request.hints = none)
    (hs : 0 ≤ skip) (ht : 0 ≤ take) (h : engine.page request skip take = .ok statement) :
    ProperScript [statement] := by
  obtain ⟨table, -, -, rfl⟩ := page_eq_ok_iff.mp h
  have hfilter : Filter.Proper (engine.filterOf "" request.filter) := proper_filterOf (by simp) _
  unfold pageStatement
  cases engine.dialect with
  | sqlServer =>
    simp only [SqlServer.page]
    split
    · refine .single ⟨hh, trivial, hfilter, ?_⟩ trivial
      rintro window ⟨⟩
      exact ⟨hs, ht⟩
    · have hfirst := SqlServer.saturate_nonneg (Int.le_add_one hs)
      have hlast := SqlServer.saturate_nonneg (Int.add_nonneg hs ht)
      exact .single ⟨hh, hfilter, hfirst, hlast⟩ trivial
  | postgreSql =>
    refine .single ⟨rfl, trivial, hfilter, ?_⟩ trivial
    rintro window ⟨⟩
    exact ⟨hs, ht⟩
  | mySql =>
    refine .single ⟨rfl, trivial, hfilter, ?_⟩ trivial
    rintro window ⟨⟩
    show Window.Proper (if skip = 0 then _ else _)
    split
    · exact ht
    · exact ⟨hs, ht⟩

theorem proper_of_batchQuery {request : PagedRequest} {page rowsPerBatch : Int} (hh : request.hints = none)
    (h : engine.batchQuery request page rowsPerBatch = .ok statement) : ProperScript [statement] := by
  simp only [batchQuery, throw_bind, ite_throw_eq_ok] at h
  obtain ⟨hpage, hrows, -, h⟩ := h
  exact proper_of_page hh (Int.mul_nonneg (by omega) (by omega)) (by omega) h

theorem proper_of_skipQuery {request : PagedRequest} {skip take : Int} (hh : request.hints = none)
    (h : engine.skipQuery request skip take = .ok statement) : ProperScript [statement] := by
  simp only [skipQuery, throw_bind, ite_throw_eq_ok] at h
  obtain ⟨hskip, htake, h⟩ := h
  exact proper_of_page hh (by omega) (by omega) h

/-! ### Writing rows -/

theorem proper_of_delete {request : RowsRequest} (hh : request.hints = none)
    (h : engine.delete request = .ok statement) : ProperScript [statement] := by
  simp only [delete, bind_eq_ok, exists_unit_eq_ok, pure_eq_ok] at h
  obtain ⟨table, -, -, -, -, rfl⟩ := h
  exact .single ⟨hh, proper_filterOf (by simp) _⟩ trivial

theorem proper_of_truncate {table : String} (h : engine.truncate table = .ok statement) :
    ProperScript [statement] := by
  simp only [truncate, bind_eq_ok, pure_eq_ok] at h
  obtain ⟨table, -, rfl⟩ := h
  exact .single trivial trivial

theorem proper_of_update {request : UpdateRequest} (hh : request.hints = none)
    (h : engine.update request = .ok statement) : ProperScript [statement] := by
  simp only [update, bind_eq_ok, pure_eq_ok] at h
  obtain ⟨plan, hplan, rfl⟩ := h
  have hlead : ∀ c ∈ "_".toList, isParameterChar c = true := List.all_eq_true.mp (by decide)
  exact .single ⟨(UpdatePlan.ofFilter_eq_ok_iff.mp hplan).hints.trans hh, proper_filterOf hlead _⟩ trivial

/-- The statements of a dialect for an insert. -/
def insertStatements (engine : Engine) (plan : InsertPlan) : List Statement :=
  match engine.dialect with
  | .sqlServer =>
    SqlServer.withIdentity plan.target.table plan.writesIdentity
      (SqlServer.insertStatements engine.options plan)
  | .postgreSql => PostgreSql.insert plan
  | .mySql => MySql.insert plan

/-- The statements of a dialect for a merge. -/
def mergeStatements (engine : Engine) (plan : MergePlan) : List Statement :=
  match engine.dialect with
  | .sqlServer => SqlServer.merge plan
  | .postgreSql => PostgreSql.merge plan
  | .mySql => MySql.merge plan

theorem SqlServer.outcome_insert {options : Options} (plan : InsertPlan) :
    (SqlServer.insert options plan).outcome = .ok (SqlServer.withIdentity plan.target.table plan.writesIdentity
      (SqlServer.insertStatements options plan)) := by
  simp only [SqlServer.insert, Trace.outcome_ite, Trace.outcome_bind]
  split
  all_goals rfl

theorem insert_eq_ok_iff {request : InsertRequest} :
    (engine.insert request rows).outcome = .ok statements ↔
      ∃ plan, InsertPlan.Accepted engine request rows plan ∧ statements = engine.insertStatements plan := by
  simp only [insert, Trace.outcome_bind, Trace.outcome_lift, bind_eq_ok, InsertPlan.of_eq_ok_iff]
  refine exists_congr fun plan => and_congr_right fun _ => ?_
  unfold insertStatements
  cases engine.dialect with
  | sqlServer => rw [SqlServer.outcome_insert, Except.ok.injEq, eq_comm]
  | postgreSql | mySql => rw [Trace.outcome_pure, pure_eq_ok, eq_comm]

theorem merge_eq_ok_iff {request : MergeRequest} :
    (engine.merge request rows).outcome = .ok statements ↔
      ∃ plan, MergePlan.Accepted engine request rows plan ∧ statements = engine.mergeStatements plan := by
  simp only [merge, Trace.outcome_bind, Trace.outcome_pure, bind_eq_ok, pure_eq_ok, MergePlan.of_eq_ok_iff]
  exact exists_congr fun plan => and_congr_right fun _ => eq_comm

theorem updateAll_eq_ok_iff {request : UpdateRequest} :
    (engine.updateAll request).outcome = .ok statements ↔
      ∃ plan, UpdatePlan.AcceptedRows engine request plan ∧
        statements = (List.range plan.rows).map fun row =>
          .update plan.target plan.updates row (.matching plan.qualifiers) := by
  simp only [updateAll, Trace.outcome_bind, Trace.outcome_pure, bind_eq_ok, pure_eq_ok,
    UpdatePlan.ofRows_eq_ok_iff]
  exact exists_congr fun plan => and_congr_right fun _ => eq_comm

theorem proper_withIdentity {table : Ident} {writesIdentity : Bool} (h : ProperScript statements) :
    ProperScript (SqlServer.withIdentity table writesIdentity statements) := by
  unfold SqlServer.withIdentity
  split
  · have hon : ProperScript [.identityInsert table true] := .single trivial trivial
    exact (hon.append h.proper).append (by simp [Statement.Proper])
  · exact h

/-- Each row of a batch has an insert of its own. -/
theorem proper_rows {f : Nat → List Statement} (h : rows ≠ 0) (hf : ∀ row, ProperScript (f row)) :
    ProperScript ((List.range rows).flatMap f) where
  proper s hs := by
    obtain ⟨row, -, hs⟩ := List.mem_flatMap.mp hs
    exact (hf row).proper s hs
  written := by
    obtain ⟨s, hs, hwritten⟩ := (hf 0).written
    exact ⟨s, List.mem_flatMap.mpr ⟨0, List.mem_range.mpr (Nat.pos_of_ne_zero h), hs⟩, hwritten⟩

theorem proper_insertStatements {plan : InsertPlan} (hh : plan.target.hints = none) (hr : plan.rows ≠ 0) :
    ProperScript (engine.insertStatements plan) := by
  unfold insertStatements
  cases engine.dialect with
  | sqlServer =>
    refine proper_withIdentity ?_
    unfold SqlServer.insertStatements
    split
    · refine ⟨fun s hs => ?_, _, List.mem_replicate.mpr ⟨hr, rfl⟩, trivial⟩
      cases (List.mem_replicate.mp hs).2
      exact hh
    · split
      all_goals exact .single hh trivial
  | postgreSql =>
    rw [PostgreSql.insert, List.map_eq_flatMap]
    exact proper_rows hr fun row => .single rfl trivial
  | mySql => exact proper_rows hr fun row =>
    ProperScript.append (a := [_]) (.single rfl trivial) (by simp [Statement.Proper])

theorem proper_mergeStatements {plan : MergePlan} (hh : plan.target.hints = none) (hr : plan.rows ≠ 0) :
    ProperScript (engine.mergeStatements plan) := by
  unfold mergeStatements
  cases engine.dialect with
  | sqlServer => exact proper_withIdentity (.single hh trivial)
  | postgreSql =>
    rw [PostgreSql.merge, List.map_eq_flatMap]
    exact proper_rows hr fun row => .single rfl trivial
  | mySql => exact proper_rows hr fun row =>
    ProperScript.append (a := [_]) (.single rfl trivial) (by simp [Statement.Proper])

/-! ### All requests -/

theorem single_eq_ok_iff {x : Except Fault Statement} :
    (do return [← (liftM x : Trace Statement)] : Trace (List Statement)).outcome = .ok statements ↔
      ∃ s, x = .ok s ∧ statements = [s] := by
  simp only [Trace.outcome_bind, Trace.outcome_lift, Trace.outcome_pure, bind_eq_ok, pure_eq_ok]
  exact exists_congr fun s => and_congr_right fun _ => eq_comm

theorem proper_single {x : Except Fault Statement} (hx : ∀ s, x = .ok s → ProperScript [s])
    (h : (do return [← (liftM x : Trace Statement)] : Trace (List Statement)).outcome = .ok statements) :
    ProperScript statements := by
  obtain ⟨s, hs, rfl⟩ := single_eq_ok_iff.mp h
  exact hx s hs

/-- Without hints, every statement for a request is proper. -/
theorem proper_statements (hb : engine.IsBuiltIn) {request : Request} (hh : request.hints = none)
    (h : (engine.statements request).outcome = .ok statements) : ProperScript statements := by
  cases request with
  | insert request | insertAll request =>
    obtain ⟨plan, hplan, rfl⟩ := insert_eq_ok_iff.mp h
    have hrows := Check.rows_eq_ok_iff.mp hplan.hasRows
    exact proper_insertStatements (hplan.hints.trans hh) (hplan.batch ▸ hrows)
  | merge request | mergeAll request =>
    obtain ⟨plan, hplan, rfl⟩ := merge_eq_ok_iff.mp h
    have hrows := Check.rows_eq_ok_iff.mp hplan.hasRows
    exact proper_mergeStatements (hplan.hints.trans hh) (hplan.batch ▸ hrows)
  | updateAll request =>
    obtain ⟨plan, hplan, rfl⟩ := updateAll_eq_ok_iff.mp h
    have hrows := Check.rows_eq_ok_iff.mp hplan.hasRows
    rw [List.map_eq_flatMap]
    exact proper_rows (hplan.batch ▸ hrows) fun row => .single (hplan.hints.trans hh) trivial
  | query request => exact proper_single (fun _ => proper_of_query hh) h
  | batchQuery request page rowsPerBatch => exact proper_single (fun _ => proper_of_batchQuery hh) h
  | skipQuery request skip take => exact proper_single (fun _ => proper_of_skipQuery hh) h
  | count request => exact proper_single (fun _ => proper_of_scalar hh engine.known_count) h
  | countAll table hints => exact proper_single (fun _ => proper_of_scalar hh engine.known_count) h
  | anyRow request =>
    have hknown : Expression.one.Known := trivial
    exact proper_single (fun _ => proper_of_scalar hh hknown) h
  | aggregate function field | aggregateAll function field =>
    have hknown := hb.known_aggregate function field
    exact proper_single (fun _ => proper_of_scalar hh hknown) h
  | update request => exact proper_single (fun _ => proper_of_update hh) h
  | delete request => exact proper_single (fun _ => proper_of_delete hh) h
  | deleteAll table hints => exact proper_single (fun _ => proper_of_delete hh) h
  | truncate table => exact proper_single (fun _ => proper_of_truncate) h

theorem build_eq_ok_iff {request : Request} {sql : String} : (engine.build request).outcome = .ok sql ↔
    ∃ statements, (engine.statements request).outcome = .ok statements ∧
      sql = Statement.render engine.setting statements := by
  simp only [build, Trace.outcome_bind, Trace.outcome_emit, Trace.outcome_pure, bind_eq_ok, pure_eq_ok]
  constructor
  · rintro ⟨statements, h, -, -, hsql⟩
    exact ⟨statements, h, hsql.symm⟩
  · rintro ⟨statements, h, hsql⟩
    exact ⟨statements, h, (), trivial, hsql.symm⟩

/-- No name breaks out of its place. The text that a built-in engine gives for a request without hints is
    read to its end; whatever the names are, every token is a name between quotes, a parameter with a
    proper name, a keyword, a number or punctuation. Parentheses match within every statement, and the
    last token ends a statement. -/
theorem tokens_of_build (hb : engine.IsBuiltIn) {request : Request} (hh : request.hints = none)
    {sql : String} (h : (engine.build request).outcome = .ok sql) :
    ∃ tokens, engine.setting.marks.read sql.toList = some tokens ∧ (∀ t ∈ tokens, t.IsKnown) ∧
      Token.nesting 0 tokens = some 0 ∧ tokens.getLast? = some (.mark ';') := by
  obtain ⟨statements, hstatements, rfl⟩ := build_eq_ok_iff.mp h
  have hproper := proper_statements hb hh hstatements
  have hscript := @ProperScript.script engine.setting _ hproper
  refine ⟨_, Sql.read_render hscript.sound hb.isStandard, hscript.sound.isKnown, hscript.nesting, ?_⟩
  exact hscript.ends.resolve_left hproper.flatMap_ne_nil

/-- Names with quotes, semicolons and words of the language in them. -/
theorem tokens_of_build_quoted :
    let engine : Engine := { dialect := .sqlServer }
    let request : Request := .query { table := "[a]]; b]", fields := .singleton { name := "x] FROM" } }
    engine.IsBuiltIn ∧ request.hints = none ∧
      (engine.build request).outcome = .ok "SELECT [x]] FROM] FROM [a]]; b];" ∧
      ∃ tokens, engine.setting.marks.read "SELECT [x]] FROM] FROM [a]]; b];".toList = some tokens ∧
        (∀ t ∈ tokens, t.IsKnown) ∧ Token.nesting 0 tokens = some 0 ∧ tokens.getLast? = some (.mark ';') := by
  intro engine request
  have hb : engine.IsBuiltIn := ⟨rfl, rfl⟩
  have hbuild : (engine.build request).outcome = .ok "SELECT [x]] FROM] FROM [a]]; b];" := by
    decide +kernel
  exact ⟨hb, rfl, hbuild, tokens_of_build hb rfl hbuild⟩

end Engine

end CrudSql

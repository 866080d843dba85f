import CrudSql.Proofs.Identity
import CrudSql.Proofs.Statement.Target

/-! The hints of a request in the statements for it. Whether hints are accepted is a matter of the settings
    alone. They are written where single statements read, update and delete rows, and everywhere on SQL Server;
    but the pages, inserts and merges of the other dialects leave out hints that were accepted. -/

namespace CrudSql
open Sql Text

/-- An engine that takes some hints takes all. -/
theorem Check.hints_of_given {engine : Engine} {given : String} (h : hints engine (some given) = .ok ())
    (other : Option String) : hints engine other = .ok () := by
  cases hsupported : engine.setting.hintsSupported with
  | true => simp [hints, hsupported]
  | false => simp [hints, hsupported] at h

/-- The same request with other hints. -/
def Request.withHints (hints : Option String) : Request → Request
  | query request => query { request with hints }
  | batchQuery request page rowsPerBatch => batchQuery { request with hints } page rowsPerBatch
  | skipQuery request skip take => skipQuery { request with hints } skip take
  | count request => count { request with hints }
  | countAll table _ => countAll table hints
  | anyRow request => anyRow { request with hints }
  | aggregate function field request => aggregate function field { request with hints }
  | aggregateAll function field table _ => aggregateAll function field table hints
  | insert request => insert { request with hints }
  | insertAll request => insertAll { request with hints }
  | update request => update { request with hints }
  | updateAll request => updateAll { request with hints }
  | merge request => merge { request with hints }
  | mergeAll request => mergeAll { request with hints }
  | delete request => delete { request with hints }
  | deleteAll table _ => deleteAll table hints
  | truncate table => truncate table

namespace Engine
variable {engine : Engine} {s : Statement} {statements : List Statement} {table : Ident}
  {hints : Option String} {given : String} {rows : Nat}

/-- Whether the statements of a dialect have the hints of a request. Pages, inserts and merges have them only
    on SQL Server. -/
def WritesHints (engine : Engine) : Request → Prop
  | .batchQuery .. | .skipQuery .. | .insert _ | .insertAll _ | .merge _ | .mergeAll _ =>
    engine.dialect = .sqlServer
  | _ => True

/-! ### Single statements -/

theorem target?_limited (limit : Option Nat) (query : Query) :
    (Statement.query (engine.limited limit query)).target? = some query.target := by
  unfold limited
  split <;> rfl

theorem target_of_scalar {expression : Expression} {label : String} {limit : Option Nat} {request : RowsRequest}
    (h : engine.scalar expression label limit request = .ok s) : ∃ table,
      Check.table request.table = .ok table ∧ s.target? = some ⟨table, request.hints⟩ := by
  simp only [scalar, bind_eq_ok, exists_unit_eq_ok, pure_eq_ok] at h
  obtain ⟨table, htable, -, -, -, rfl⟩ := h
  exact ⟨table, htable, target?_limited limit _⟩

theorem target_of_query {request : QueryRequest} (h : engine.query request = .ok s) : ∃ table,
    Check.table request.table = .ok table ∧ s.target? = some ⟨table, request.hints⟩ := by
  simp only [query, throw_bind, bind_eq_ok, exists_unit_eq_ok, ite_throw_eq_ok, pure_eq_ok] at h
  obtain ⟨table, htable, -, -, -, -, -, rfl⟩ := h
  exact ⟨table, htable, target?_limited request.top _⟩

theorem target_of_page {request : PagedRequest} {skip take : Int} (hd : engine.dialect = .sqlServer)
    (h : engine.page request skip take = .ok s) : ∃ table,
      Check.table request.table = .ok table ∧ s.target? = some ⟨table, request.hints⟩ := by
  obtain ⟨table, haccepts, -, rfl⟩ := page_eq_ok_iff.mp h
  refine ⟨table, haccepts.table, ?_⟩
  simp only [pageStatement, hd, SqlServer.page]
  split <;> rfl

theorem target_of_update {request : UpdateRequest} (h : engine.update request = .ok s) : ∃ table,
    Check.table request.table = .ok table ∧ s.target? = some ⟨table, request.hints⟩ := by
  simp only [update, bind_eq_ok, pure_eq_ok] at h
  obtain ⟨plan, hplan, rfl⟩ := h
  have haccepted := UpdatePlan.ofFilter_eq_ok_iff.mp hplan
  exact ⟨plan.target.table, haccepted.table, haccepted.hints ▸ rfl⟩

theorem target_of_delete {request : RowsRequest} (h : engine.delete request = .ok s) : ∃ table,
    Check.table request.table = .ok table ∧ s.target? = some ⟨table, request.hints⟩ := by
  simp only [delete, bind_eq_ok, exists_unit_eq_ok, pure_eq_ok] at h
  obtain ⟨table, htable, -, -, -, rfl⟩ := h
  exact ⟨table, htable, rfl⟩

/-! ### All statements for a request -/

/-- Statements on the rows of one table, at least one, and statements that have no table. -/
structure AreOn (target : Target) (statements : List Statement) : Prop where
  same : ∀ s ∈ statements, ∀ other, s.target? = some other → other = target
  one : ∃ s ∈ statements, s.target? = some target

theorem AreOn.single {target : Target} (h : s.target? = some target) : AreOn target [s] where
  same other hother t ht := by
    cases List.mem_singleton.mp hother
    exact (Option.some.inj (h.symm.trans ht)).symm
  one := ⟨s, List.mem_singleton_self s, h⟩

theorem AreOn.of_hints {target : Target} (h : AreOn target statements) (hh : target.hints = hints) :
    AreOn ⟨target.table, hints⟩ statements := by
  subst hh
  exact h

theorem AreOn.withIdentity {target : Target} (h : AreOn target statements) (table : Ident)
    (writesIdentity : Bool) : AreOn target (SqlServer.withIdentity table writesIdentity statements) where
  same s hs other hother := by
    rcases SqlServer.mem_withIdentity hs with hs | ⟨on, rfl⟩
    · exact h.same s hs other hother
    · cases hother
  one := by
    obtain ⟨s, hs, htarget⟩ := h.one
    exact ⟨s, SqlServer.mem_withIdentity_of_mem hs, htarget⟩

theorem areOn_insertStatements {plan : InsertPlan} (hd : engine.dialect = .sqlServer) (hr : plan.rows ≠ 0) :
    AreOn plan.target (engine.insertStatements plan) := by
  rw [insertStatements, hd]
  refine AreOn.withIdentity ?_ _ _
  unfold SqlServer.insertStatements
  split
  · refine ⟨fun s hs other hother => ?_, _, List.mem_replicate.mpr ⟨hr, rfl⟩, rfl⟩
    rw [List.eq_of_mem_replicate hs] at hother
    exact (Option.some.inj hother).symm
  · split <;> exact .single rfl

theorem areOn_mergeStatements {plan : MergePlan} (hd : engine.dialect = .sqlServer) :
    AreOn plan.target (engine.mergeStatements plan) := by
  rw [mergeStatements, hd]
  exact (AreOn.single rfl).withIdentity _ _

theorem areOn_updates {plan : UpdatePlan} (hr : plan.rows ≠ 0) :
    AreOn plan.target ((List.range plan.rows).map fun row =>
      .update plan.target plan.updates row (.matching plan.qualifiers)) where
  same s hs other hother := by
    obtain ⟨row, -, rfl⟩ := List.mem_map.mp hs
    exact (Option.some.inj hother).symm
  one := ⟨_, List.mem_map_of_mem (List.mem_range.mpr (Nat.pos_of_ne_zero hr)), rfl⟩

theorem areOn_of_statements {request : Request} {given : String} (hgiven : request.hints = some given)
    (hw : engine.WritesHints request) (h : (engine.statements request).outcome = .ok statements) :
    ∃ table, Check.table request.table = .ok table ∧ AreOn ⟨table, some given⟩ statements := by
  rw [← hgiven]
  cases request with
  | query request =>
    obtain ⟨s, hs, rfl⟩ := single_eq_ok_iff.mp h
    obtain ⟨table, htable, htarget⟩ := target_of_query hs
    exact ⟨table, htable, .single htarget⟩
  | batchQuery request page rowsPerBatch =>
    obtain ⟨s, hs, rfl⟩ := single_eq_ok_iff.mp h
    simp only [batchQuery, throw_bind, ite_throw_eq_ok] at hs
    obtain ⟨table, htable, htarget⟩ := target_of_page hw hs.2.2.2
    exact ⟨table, htable, .single htarget⟩
  | skipQuery request skip take =>
    obtain ⟨s, hs, rfl⟩ := single_eq_ok_iff.mp h
    simp only [skipQuery, throw_bind, ite_throw_eq_ok] at hs
    obtain ⟨table, htable, htarget⟩ := target_of_page hw hs.2.2
    exact ⟨table, htable, .single htarget⟩
  | count | countAll | anyRow | aggregate | aggregateAll =>
    obtain ⟨s, hs, rfl⟩ := single_eq_ok_iff.mp h
    obtain ⟨table, htable, htarget⟩ := target_of_scalar hs
    exact ⟨table, htable, .single htarget⟩
  | update request =>
    obtain ⟨s, hs, rfl⟩ := single_eq_ok_iff.mp h
    obtain ⟨table, htable, htarget⟩ := target_of_update hs
    exact ⟨table, htable, .single htarget⟩
  | delete | deleteAll =>
    obtain ⟨s, hs, rfl⟩ := single_eq_ok_iff.mp h
    obtain ⟨table, htable, htarget⟩ := target_of_delete hs
    exact ⟨table, htable, .single htarget⟩
  | insert request | insertAll request =>
    obtain ⟨plan, hplan, rfl⟩ := insert_eq_ok_iff.mp h
    have hrows := Check.rows_eq_ok_iff.mp hplan.hasRows
    exact ⟨plan.target.table, hplan.table, (areOn_insertStatements hw (hplan.batch ▸ hrows)).of_hints hplan.hints⟩
  | merge request | mergeAll request =>
    obtain ⟨plan, hplan, rfl⟩ := merge_eq_ok_iff.mp h
    exact ⟨plan.target.table, hplan.table, (areOn_mergeStatements hw).of_hints hplan.hints⟩
  | updateAll request =>
    obtain ⟨plan, hplan, rfl⟩ := updateAll_eq_ok_iff.mp h
    have hrows := Check.rows_eq_ok_iff.mp hplan.hasRows
    exact ⟨plan.target.table, hplan.table, (areOn_updates (hplan.batch ▸ hrows)).of_hints hplan.hints⟩
  | truncate => cases hgiven

/-! ### Hints that are left out -/

theorem page_withHints {request : PagedRequest} {skip take : Int} (hd : engine.dialect ≠ .sqlServer)
    (hgiven : request.hints = some given) (h : engine.page request skip take = .ok s) (other : Option String) :
    engine.page { request with hints := other } skip take = .ok s := by
  obtain ⟨table, haccepts, hfits, rfl⟩ := page_eq_ok_iff.mp h
  have hk := Check.hints_of_given (hgiven ▸ haccepts.hints) other
  refine page_eq_ok_iff.mpr ⟨table, { haccepts with hints := hk }, hfits, ?_⟩
  unfold pageStatement
  cases hdialect : engine.dialect with
  | sqlServer => exact absurd hdialect hd
  | postgreSql | mySql => rfl

theorem insert_withHints {request : InsertRequest} (hd : engine.dialect ≠ .sqlServer)
    (hgiven : request.hints = some given) (h : (engine.insert request rows).outcome = .ok statements)
    (other : Option String) : (engine.insert { request with hints := other } rows).outcome = .ok statements := by
  obtain ⟨plan, hplan, rfl⟩ := insert_eq_ok_iff.mp h
  have hk := Check.hints_of_given (hgiven ▸ hplan.knowsHints) other
  refine insert_eq_ok_iff.mpr ⟨{ plan with target := ⟨plan.target.table, other⟩ },
    { hplan with hints := rfl, knowsHints := hk }, ?_⟩
  unfold insertStatements
  cases hdialect : engine.dialect with
  | sqlServer => exact absurd hdialect hd
  | postgreSql | mySql => rfl

theorem merge_withHints {request : MergeRequest} (hd : engine.dialect ≠ .sqlServer)
    (hgiven : request.hints = some given) (h : (engine.merge request rows).outcome = .ok statements)
    (other : Option String) : (engine.merge { request with hints := other } rows).outcome = .ok statements := by
  obtain ⟨plan, hplan, rfl⟩ := merge_eq_ok_iff.mp h
  have hk := Check.hints_of_given (hgiven ▸ hplan.knowsHints) other
  refine merge_eq_ok_iff.mpr ⟨{ plan with target := ⟨plan.target.table, other⟩ },
    { hplan with hints := rfl, knowsHints := hk }, ?_⟩
  unfold mergeStatements
  cases hdialect : engine.dialect with
  | sqlServer => exact absurd hdialect hd
  | postgreSql | mySql => rfl

/-- Where a dialect does not write hints, the statements are the same whatever hints are given. -/
theorem statements_withHints {request : Request} (hw : ¬engine.WritesHints request)
    (hgiven : request.hints = some given) (h : (engine.statements request).outcome = .ok statements)
    (other : Option String) : (engine.statements (request.withHints other)).outcome = .ok statements := by
  cases request with
  | batchQuery request page rowsPerBatch =>
    obtain ⟨s, hs, rfl⟩ := single_eq_ok_iff.mp h
    simp only [batchQuery, throw_bind, ite_throw_eq_ok] at hs
    obtain ⟨hpage, hrows, hfits, hs⟩ := hs
    refine single_eq_ok_iff.mpr ⟨s, ?_, rfl⟩
    simp only [batchQuery, throw_bind, ite_throw_eq_ok]
    exact ⟨hpage, hrows, hfits, page_withHints hw hgiven hs other⟩
  | skipQuery request skip take =>
    obtain ⟨s, hs, rfl⟩ := single_eq_ok_iff.mp h
    simp only [skipQuery, throw_bind, ite_throw_eq_ok] at hs
    obtain ⟨hskip, htake, hs⟩ := hs
    refine single_eq_ok_iff.mpr ⟨s, ?_, rfl⟩
    simp only [skipQuery, throw_bind, ite_throw_eq_ok]
    exact ⟨hskip, htake, page_withHints hw hgiven hs other⟩
  | insert | insertAll => exact insert_withHints hw hgiven h other
  | merge | mergeAll => exact merge_withHints hw hgiven h other
  | _ => exact absurd trivial hw

/-! ### Text -/

/-- The hints of an accepted request that are not blank. Where the dialect writes them, the request has its
    statements on the rows of its table, at least one, and the text of each has the hints directly behind the
    quoted name of the table. But PostgreSQL and MySQL do not write them for pages, inserts and merges: there
    the text is the same for all hints, and for none. -/
theorem hasHints_of_build {request : Request} {given sql : String} (hgiven : request.hints = some given)
    (hne : trim given ≠ "") (h : (engine.build request).outcome = .ok sql) :
    ∃ statements, (engine.statements request).outcome = .ok statements ∧
      sql = " ".intercalate ((statements.map fun s => Statement.render engine.setting [s]).filter (· ≠ "")) ∧
      (engine.WritesHints request → ∃ table, Check.table request.table = .ok table ∧
        (∃ s ∈ statements, s.target?.isSome) ∧
        ∀ s ∈ statements, s.target?.isSome → s.HasHints engine.setting table given) ∧
      (¬engine.WritesHints request →
        ∀ other, (engine.build (request.withHints other)).outcome = .ok sql) := by
  obtain ⟨statements, hstatements, rfl⟩ := build_eq_ok_iff.mp h
  refine ⟨statements, hstatements, Statement.render_eq_intercalate_filter statements, fun hw => ?_,
    fun hw other => ?_⟩
  · obtain ⟨table, htable, hon⟩ := areOn_of_statements hgiven hw hstatements
    refine ⟨table, htable, ?_, fun s hs htarget => ?_⟩
    · obtain ⟨s, hs, htarget⟩ := hon.one
      exact ⟨s, hs, htarget ▸ rfl⟩
    · obtain ⟨target, htarget⟩ := Option.isSome_iff_exists.mp htarget
      obtain rfl := hon.same s hs target htarget
      exact Statement.hasHints_of_target htarget (Check.table_parts_ne_nil htable) hne
  · exact build_eq_ok_iff.mpr ⟨statements, statements_withHints hw hgiven hstatements other, rfl⟩

/-- A merge of a row, with hints between white space. -/
theorem hasHints_of_build_merge :
    let engine : Engine := { dialect := .sqlServer }
    let fields : FieldSet := ⟨[{ name := "Id" }, { name := "Name" }], of_decide_eq_true rfl⟩
    let columns : Columns := ⟨[{ name := "Id", isPrimary := true }]⟩
    let request : Request := .merge { table := "T", fields, columns, hints := some " WITH (HOLDLOCK) " }
    request.hints = some " WITH (HOLDLOCK) " ∧ trim " WITH (HOLDLOCK) " ≠ "" ∧ engine.WritesHints request ∧
      ∃ sql, (engine.build request).outcome = .ok sql ∧
        ∃ statements, (engine.statements request).outcome = .ok statements ∧
          ∃ table, Check.table "T" = .ok table ∧ (∃ s ∈ statements, s.target?.isSome) ∧
            ∀ s ∈ statements, s.target?.isSome → s.HasHints engine.setting table " WITH (HOLDLOCK) " := by
  intro engine fields columns request
  have hne : trim " WITH (HOLDLOCK) " ≠ "" := by
    with_unfolding_all decide
  have hplan : MergePlan.Accepted engine
      { table := "T", fields, columns, hints := some " WITH (HOLDLOCK) " } 1 {
        target := ⟨⟨["T"]⟩, some " WITH (HOLDLOCK) "⟩
        source := fields
        columns := fields
        qualifiers := ⟨[{ name := "Id" }], List.pairwise_singleton _ _⟩
        updates := ⟨[{ name := "Name" }], List.pairwise_singleton _ _⟩
        identity := none
        keys := [⟨{ name := "Id" }, .supplied⟩]
        rows := 1
        writesIdentity := false } := by
    with_unfolding_all decide
  have hw : engine.WritesHints request := rfl
  have hstatements : (engine.statements request).outcome = .ok _ := merge_eq_ok_iff.mpr ⟨_, hplan, rfl⟩
  have hbuild := build_eq_ok_iff.mpr ⟨_, hstatements, rfl⟩
  obtain ⟨statements, hsame, -, hhinted, -⟩ := hasHints_of_build rfl hne hbuild
  exact ⟨rfl, hne, hw, _, hbuild, statements, hsame, hhinted hw⟩

/-- PostgreSQL with hints switched on deletes with the hints that are given and inserts without them. -/
theorem hints_left_out :
    let engine : Engine := { dialect := .postgreSql, setting := { Setting.postgreSql with hintsSupported := true } }
    let fields : FieldSet := ⟨[{ name := "A" }], List.pairwise_singleton _ _⟩
    let request : Request := .insert { table := "T", fields, columns := {}, hints := some "WITH (X)" }
    (engine.build (.deleteAll "T" (some "WITH (X)"))).outcome = .ok "DELETE FROM \"T\" WITH (X);" ∧
      (engine.build request).outcome = .ok "INSERT INTO \"T\" (\"A\") VALUES (@A);" ∧
      ¬"WITH (X)".toList <:+: "INSERT INTO \"T\" (\"A\") VALUES (@A);".toList := by
  intro engine fields request
  have hplan : InsertPlan.Accepted engine
      { table := "T", fields, columns := {}, hints := some "WITH (X)" } 1
      { target := ⟨⟨["T"]⟩, some "WITH (X)"⟩, columns := fields, keys := [], rows := 1, writesIdentity := false } := by
    with_unfolding_all decide
  have hstatements : (engine.statements request).outcome = .ok _ := insert_eq_ok_iff.mpr ⟨_, hplan, rfl⟩
  refine ⟨by with_unfolding_all decide, ?_, by decide⟩
  exact build_eq_ok_iff.mpr ⟨_, hstatements, by with_unfolding_all decide⟩

end Engine

end CrudSql

import CrudSql.Proofs.Build
import CrudSql.Proofs.Predicate.Shape

/-! Two requests that differ only in the values of their filters. Whatever an engine looks at on its way,
    the limits and the names of parameters included, is the shape of the values. So it refuses both for the
    same reason or gives the same text for both. -/

namespace CrudSql

/-! ### Requests -/

namespace Request

/-- The request with a filter in place of its own, if it has a place for one. -/
def withFilter (filter : Option Predicate) : Request → Request
  | query request => query { request with filter }
  | batchQuery request page rowsPerBatch => batchQuery { request with filter } page rowsPerBatch
  | skipQuery request skip take => skipQuery { request with filter } skip take
  | count request => count { request with filter }
  | anyRow request => anyRow { request with filter }
  | aggregate function field request => aggregate function field { request with filter }
  | update request => update { request with filter }
  | updateAll request => updateAll { request with filter }
  | delete request => delete { request with filter }
  | request => request

/-- Requests that are equal but for the values in their filters, which have the same shape in both. -/
structure SameShape (request other : Request) : Prop where
  rest : request.withFilter other.filter = other
  filter : Option.Rel Predicate.SameShape request.filter other.filter

end Request

section Filters
variable {a b : Option Predicate} {setting : Setting} {lead : String} {extra : Nat}

theorem Predicate.SameShape.listLimit_eq {p q : Predicate} (h : p.SameShape q) :
    Check.listLimit setting p = Check.listLimit setting q := by
  unfold Check.listLimit
  cases setting.maxListLength with
  | none => rfl
  | some limit =>
    have hleaves : List.Forall₂ Condition.SameShape p.conditions q.conditions := h.items.leaves
    refine forM_congr (hleaves.imp fun c d hcd => ?_)
    rcases hcd.test.cases with ⟨negated, hc, hd⟩ | ⟨comparison, v, w, hc, hd⟩ |
      ⟨negated, v₁, v₂, w₁, w₂, hc, hd⟩ | ⟨negated, vs, ws, hlength, hc, hd⟩
    · simp only [hc, hd]
    · simp only [hc, hd]
    · simp only [hc, hd]
    · simp only [hc, hd, hlength, hcd.field]

/-- Both filters are refused for the same reason, or they have bindings of the same names. -/
theorem sameOutcome_filter (h : Option.Rel Predicate.SameShape a b) :
    SameOutcome (fun bindings bindings' : List (String × Value) => bindings.map (·.1) = bindings'.map (·.1))
      (Check.filter setting lead extra a) (Check.filter setting lead extra b) := by
  cases h with
  | none => exact .ok rfl
  | some h =>
    have hnames := h.names_bindings setting.arrayThreshold lead
    have hlength := congrArg List.length hnames
    rw [List.length_map, List.length_map] at hlength
    simp only [Check.filter, h.listLimit_eq, hlength]
    exact .bind_left fun _ => .bind_left fun _ => .ok hnames

theorem whereClause_eq {engine : Engine} (h : Option.Rel Predicate.SameShape a b) :
    Sql.whereClause setting (engine.filterOf lead a) = Sql.whereClause setting (engine.filterOf lead b) := by
  cases h with
  | none => rfl
  | some h => simp only [Engine.filterOf, Option.map_some, Sql.whereClause, h.atoms?_eq]

theorem names_filterBindings (h : Option.Rel Predicate.SameShape a b) (t : Option Nat) :
    (filterBindings t lead a).map (·.1) = (filterBindings t lead b).map (·.1) := by
  cases h with
  | none => rfl
  | some h => exact h.names_bindings t lead

end Filters

/-- Statements with the same text. -/
def Statement.SameText (setting : Setting) (a b : Statement) : Prop := a.sql setting = b.sql setting

namespace Engine
variable {engine : Engine} {filter : Option Predicate}

/-! ### Operations -/

theorem sameText_limited {query : Query} {filter : Option Filter} (limit : Option Nat)
    (h : Sql.whereClause engine.setting query.filter = Sql.whereClause engine.setting filter) :
    Statement.SameText engine.setting (.query (engine.limited limit query))
      (.query (engine.limited limit { query with filter })) := by
  show (engine.limited limit query).sql _ = (engine.limited limit { query with filter }).sql _
  unfold limited
  split
  all_goals simp only [Query.sql, h]

theorem sameText_query {request : QueryRequest} (h : Option.Rel Predicate.SameShape request.filter filter) :
    SameOutcome (Statement.SameText engine.setting) (engine.query request)
      (engine.query { request with filter }) := by
  refine .bind_left fun table => .bind_left fun _ => .bind_left fun _ => .ite_throw ?_
  exact (sameOutcome_filter h).bind fun _ _ _ => .ok (sameText_limited request.top (whereClause_eq h))

theorem sameText_page {request : PagedRequest} (h : Option.Rel Predicate.SameShape request.filter filter)
    (skip take : Int) : SameOutcome (Statement.SameText engine.setting) (engine.page request skip take)
      (engine.page { request with filter } skip take) := by
  refine .bind_left fun table => .bind_left fun _ => .bind_left fun _ => .ite_throw <| .ite_throw ?_
  refine (sameOutcome_filter h).bind fun _ _ _ => .ok ?_
  have hwhere : Sql.whereClause engine.setting (engine.filterOf "" request.filter) =
      Sql.whereClause engine.setting (engine.filterOf "" filter) := whereClause_eq h
  cases engine.dialect with
  | sqlServer =>
    simp only [SqlServer.page]
    split
    · simp only [Statement.SameText, Statement.sql, Query.sql, hwhere]
    · simp only [Statement.SameText, Statement.sql, NumberedQuery.sql, hwhere]
  | postgreSql => simp only [PostgreSql.page, Statement.SameText, Statement.sql, Query.sql, hwhere]
  | mySql => simp only [MySql.page, Statement.SameText, Statement.sql, Query.sql, hwhere]

theorem sameText_scalar {request : RowsRequest} (h : Option.Rel Predicate.SameShape request.filter filter)
    (expression : Expression) (label : String) (limit : Option Nat) :
    SameOutcome (Statement.SameText engine.setting) (engine.scalar expression label limit request)
      (engine.scalar expression label limit { request with filter }) := by
  refine .bind_left fun table => .bind_left fun _ => ?_
  exact (sameOutcome_filter h).bind fun _ _ _ => .ok (sameText_limited limit (whereClause_eq h))

theorem sameText_delete {request : RowsRequest} (h : Option.Rel Predicate.SameShape request.filter filter) :
    SameOutcome (Statement.SameText engine.setting) (engine.delete request)
      (engine.delete { request with filter }) := by
  refine .bind_left fun table => .bind_left fun _ => (sameOutcome_filter h).bind fun _ _ _ => .ok ?_
  simp only [Statement.SameText, Statement.sql, whereClause_eq h]

/-- Where names are the same, so is the first that has a property. -/
theorem name_of_find? (p : String → Bool) {bindings bindings' : List (String × Value)}
    {x y : Option (String × Value)} (h : bindings.map (·.1) = bindings'.map (·.1))
    (hx : bindings.find? (fun binding => p binding.1) = x)
    (hy : bindings'.find? (fun binding => p binding.1) = y) : x.map (·.1) = y.map (·.1) := by
  have hfind : ∀ l : List (String × Value),
      (l.find? fun binding => p binding.1).map (·.1) = (l.map (·.1)).find? p := by
    intro l
    rw [List.find?_map]
    rfl
  rw [← hx, ← hy, hfind, hfind, h]

/-- The columns of an update are compared with the names of the bindings and with nothing else. -/
theorem sameOutcome_ofFilter {request : UpdateRequest} {lead : String}
    (h : Option.Rel Predicate.SameShape request.filter filter) :
    SameOutcome Eq (UpdatePlan.ofFilter engine request lead)
      (UpdatePlan.ofFilter engine { request with filter } lead) := by
  refine .bind_left fun table => .bind_left fun _ => .bind_left fun _ => .ite_throw <| .bind_left fun _ => ?_
  refine (sameOutcome_filter h).bind fun bindings bindings' hnames => ?_
  refine (SameOutcome.of_eq (forM_congr (List.forall₂_same.mpr fun field _ => ?_))).bind fun _ _ _ => .ok rfl
  have hfirst := @name_of_find? (Text.lower (parameterBase field.name) == Text.lower ·) bindings bindings'
  split
  · rename_i hfound
    split
    · rename_i hfound'
      cases hfirst hnames hfound hfound'
      rfl
    · rename_i hnone'
      cases hfirst hnames hfound hnone'
  · rename_i hnone
    split
    · rename_i hfound'
      cases hfirst hnames hnone hfound'
    · rfl

theorem sameText_update {request : UpdateRequest} (h : Option.Rel Predicate.SameShape request.filter filter) :
    SameOutcome (Statement.SameText engine.setting) (engine.update request)
      (engine.update { request with filter }) := by
  refine (sameOutcome_ofFilter h).bind ?_
  rintro plan _ rfl
  refine .ok ?_
  simp only [Statement.SameText, Statement.sql, UpdateScope.sql, whereClause_eq h]

/-! ### Builds -/

/-- A request for one statement is built to the statement's text. -/
theorem build_eq_of_sameText {request other : Request} {x y : Except Fault Statement}
    (hx : engine.statements request = do return [← x]) (hy : engine.statements other = do return [← y])
    (hv : request.verb = other.verb) (h : SameOutcome (Statement.SameText engine.setting) x y) :
    engine.build request = engine.build other := by
  cases h with
  | error fault =>
    rw [build, build, hx, hy]
    rfl
  | @ok a b hab =>
    have htext : Statement.render engine.setting [a] = Statement.render engine.setting [b] := by
      rw [Statement.render, Statement.render, List.flatMap_singleton, List.flatMap_singleton, hab]
    have ha : engine.statements request = pure [a] := hx
    have hb : engine.statements other = pure [b] := hy
    rw [build, build, ha, hb, pure_bind, pure_bind, htext, hv]

theorem build_withFilter {request : Request} (h : Option.Rel Predicate.SameShape request.filter filter) :
    engine.build request = engine.build (request.withFilter filter) := by
  cases request with
  | query request => exact build_eq_of_sameText rfl rfl rfl (sameText_query h)
  | batchQuery request page rowsPerBatch =>
    refine build_eq_of_sameText rfl rfl rfl (.ite_throw <| .ite_throw <| .ite_throw ?_)
    exact sameText_page h (page * rowsPerBatch) rowsPerBatch
  | skipQuery request skip take =>
    exact build_eq_of_sameText rfl rfl rfl (sameText_page h skip take).ite_throw.ite_throw
  | count request | anyRow request => exact build_eq_of_sameText rfl rfl rfl (sameText_scalar h ..)
  | aggregate function field request =>
    have hverb : (Request.aggregate function field request).verb =
        (Request.aggregate function field { request with filter }).verb := by
      cases function <;> rfl
    exact build_eq_of_sameText rfl rfl hverb (sameText_scalar h ..)
  | update request => exact build_eq_of_sameText rfl rfl rfl (sameText_update h)
  | delete request => exact build_eq_of_sameText rfl rfl rfl (sameText_delete h)
  | updateAll | insert | insertAll | merge | mergeAll | countAll | aggregateAll | deleteAll | truncate => rfl

/-- The values of a filter never flow into a statement. Where two requests are equal but for values of the
    same shape, any engine gives the same text for both or refuses both for the same reason, with the same
    events on the way, and their bindings have the same names in the same order. -/
theorem build_eq_of_sameShape {request other : Request} (h : request.SameShape other) :
    engine.build request = engine.build other ∧ ∀ arrayThreshold lead,
      (filterBindings arrayThreshold lead request.filter).map (·.1) =
        (filterBindings arrayThreshold lead other.filter).map (·.1) := by
  refine ⟨?_, fun arrayThreshold lead => names_filterBindings h.filter arrayThreshold⟩
  rw [build_withFilter h.filter, h.rest]

/-- A number, a text and a list with a NULL in it, each with another of its shape. -/
theorem build_eq_of_sameShape_grouped :
    let engine : Engine := { dialect := .postgreSql }
    let filter (number text : Scalar) (values : List Value) : Predicate :=
      { items := .leaf { field := { name := "Id" }, test := .compare .less number } <|
          .group true .or
            (.leaf { field := { name := "Name" }, test := .compare .equal text } <|
              .leaf { field := { name := "Kind" }, test := .among false values } .nil) .nil }
    let request : Request :=
      .delete { table := "T", filter := some (filter (.int 7) (.text "x") [.scalar (.int 1), .null]) }
    let other : Request :=
      .delete { table := "T", filter := some (filter (.int 8) (.text "'; DROP") [.null, .scalar (.bool true)]) }
    request.SameShape other ∧ request ≠ other ∧ engine.build request = engine.build other ∧
      (filterBindings none "" request.filter).map (·.1) = (filterBindings none "" other.filter).map (·.1) := by
  intro engine filter request other
  have hshape : request.SameShape other := by
    refine ⟨rfl, .some ⟨?_, rfl, rfl⟩⟩
    refine .leaf ⟨rfl, ⟨rfl, .scalar _ _⟩, rfl⟩ (.group _ _ ?_ .nil)
    exact .leaf ⟨rfl, ⟨rfl, .scalar _ _⟩, rfl⟩ (.leaf ⟨rfl, ⟨rfl, .list rfl⟩, rfl⟩ .nil)
  have hne : request ≠ other := by
    simp [request, other, filter]
  have hsame : engine.build request = engine.build other ∧ _ := build_eq_of_sameShape hshape
  exact ⟨hshape, hne, hsame.1, hsame.2 none ""⟩

end Engine

end CrudSql

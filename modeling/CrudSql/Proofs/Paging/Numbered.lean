import CrudSql.Proofs.Paging
import CrudSql.Proofs.Token.Clause

/-! Pages by numbered rows. The query above sees of the rows only what the query below it projects: their
    numbers and the fields of the request. It can name all the columns that it orders by only where these are
    among the fields, unlike a page by an offset, which is one query of the table. -/

namespace CrudSql
open Sql Text
open Token (listed names)

/-! ### Names -/

namespace Token

/-- The name that a token is, if it is one. -/
def name? : Token → Option String
  | name text => some text
  | _ => none

@[simp] theorem name?_name (text : String) : (name text).name? = some text := rfl

@[simp] theorem name?_word (text : String) : (word text).name? = none := rfl

@[simp] theorem name?_mark (c : Char) : (mark c).name? = none := rfl

@[simp] theorem names_number (n : Int) : (Atom.number n).tokens.filterMap (·.name?) = [] := rfl

@[simp] theorem names_listed (items : List (List Token)) :
    (listed items).filterMap (·.name?) = items.flatMap (·.filterMap (·.name?)) := by
  cases items with
  | nil => rfl
  | cons item items =>
    rw [listed_cons, List.filterMap_append, List.filterMap_flatMap, List.flatMap_cons]
    rfl

end Token

/-! ### Scopes -/

/-- A query is closed over the columns that are projected for it if no two of them have one name, and every
    column that it names is one of them. Names are compared without regard to case. -/
structure IsClosed (projected named : List String) : Prop where
  distinct : projected.Pairwise fun a b => sameName a b = false
  projects : ∀ column ∈ named, ∃ below ∈ projected, sameName column below = true

namespace NumberedQuery
variable {setting : Setting} {query : NumberedQuery}

/-- The columns that the query below projects. -/
def projected (query : NumberedQuery) : List String := rowNumber :: query.fields.names

/-- The columns that the query above names: those that it selects, the number, and those that it orders by. -/
def outerNames (query : NumberedQuery) : List String :=
  query.fields.names ++ rowNumber :: query.order.map (·.field.name)

theorem distinct_iff : (query.projected.Pairwise fun a b => sameName a b = false) ↔
    (∀ field ∈ query.fields.fields, sameName rowNumber field.name = false) ∧
      query.fields.fields.Pairwise fun a b => sameName a.name b.name = false := by
  rw [projected, FieldSet.names, List.pairwise_cons, List.pairwise_map, List.forall_mem_map]

theorem projects_iff : (∀ column ∈ query.outerNames, ∃ below ∈ query.projected, sameName column below = true) ↔
    ∀ item ∈ query.order, sameName item.field.name rowNumber = true ∨
      ∃ field ∈ query.fields.fields, sameName item.field.name field.name = true := by
  constructor
  · intro h item hitem
    obtain ⟨below, hbelow, hsame⟩ := h item.field.name
      (List.mem_append_right _ (List.mem_cons_of_mem _ (List.mem_map_of_mem hitem)))
    rcases List.mem_cons.mp hbelow with rfl | hbelow
    · exact Or.inl hsame
    · obtain ⟨field, hfield, rfl⟩ := List.mem_map.mp hbelow
      exact Or.inr ⟨field, hfield, hsame⟩
  · intro h column hcolumn
    rcases List.mem_append.mp hcolumn with hcolumn | hcolumn
    · exact ⟨column, List.mem_cons_of_mem _ hcolumn, sameName_refl column⟩
    · rcases List.mem_cons.mp hcolumn with rfl | hcolumn
      · exact ⟨rowNumber, List.mem_cons_self, sameName_refl rowNumber⟩
      · -- Only what rows are ordered by is not projected of itself.
        obtain ⟨item, hitem, rfl⟩ := List.mem_map.mp hcolumn
        rcases h item hitem with hsame | ⟨field, hfield, hsame⟩
        · exact ⟨rowNumber, List.mem_cons_self, hsame⟩
        · exact ⟨field.name, List.mem_cons_of_mem _ (List.mem_map_of_mem hfield), hsame⟩

/-- The fields of a request are told apart, with the number among them, and they include all that rows are
    ordered by. -/
structure IsCovered (query : NumberedQuery) : Prop where
  distinct : query.fields.fields.Pairwise fun a b => sameName a.name b.name = false
  number : ∀ field ∈ query.fields.fields, sameName rowNumber field.name = false
  ordered : ∀ item ∈ query.order, sameName item.field.name rowNumber = true ∨
    ∃ field ∈ query.fields.fields, sameName item.field.name field.name = true

theorem isClosed_iff : IsClosed query.projected query.outerNames ↔ query.IsCovered := by
  constructor
  · rintro ⟨hdistinct, hprojects⟩
    obtain ⟨hnumber, hfields⟩ := distinct_iff.mp hdistinct
    exact ⟨hfields, hnumber, projects_iff.mp hprojects⟩
  · rintro ⟨hfields, hnumber, hordered⟩
    exact ⟨distinct_iff.mpr ⟨hnumber, hfields⟩, projects_iff.mpr hordered⟩

/-! ### Text -/

/-- The query below up to the columns that it projects. -/
def front (query : NumberedQuery) : Sql :=
  word "WITH CTE AS" ++ .token [.fixed "("] :: (word "SELECT" ++ word "ROW_NUMBER() OVER" ++
    parenthesized (orderBy query.order) ++ named rowNumber ++ comma ++ Sql.columns query.fields.fields)

/-- The rows that the query below reads. -/
def source (setting : Setting) (query : NumberedQuery) : Sql :=
  word "FROM" ++ query.target.sql ++ whereClause setting query.filter ++ [.mark ')']

/-- The query above. -/
def outer (query : NumberedQuery) : Sql :=
  word "SELECT" ++ Sql.columns query.fields.fields ++ word "FROM" ++ word "CTE" ++
  [.token [.fixed "WHERE (", .name rowNumber, .fixed " BETWEEN ", .number query.first,
    .fixed " AND ", .number query.last, .fixed ")"]] ++
  orderBy query.order ++ stop

theorem sql_eq : query.sql setting = query.front ++ (query.source setting ++ query.outer) := by
  simp [sql, front, source, outer, parenthesized]

theorem render_eq (hm : setting.marks.IsReadable) (hne : query.fields.fields ≠ []) :
    render setting (query.sql setting) =
      " ".intercalate [render setting query.front, render setting (query.source setting),
        render setting query.outer] := by
  have hsource : Opens setting (query.source setting) := by
    simp only [source, List.append_assoc]
    exact Opens.append opens_word _
  have houter : Opens setting query.outer := by
    simp only [outer, List.append_assoc]
    exact Opens.append opens_word _
  -- The query below up to its columns ends with a quote, and all of it with a parenthesis.
  have hfront : Piece.gap (query.front.onto setting []) = [' '] := by
    rw [front, ← List.cons_append, ← List.append_assoc, onto_append]
    exact gap_columns hm hne _
  have hclosing : Piece.gap ((query.source setting).onto setting []) = [' '] := by
    rw [source, onto_append]
    rfl
  rw [sql_eq, (hsource.append _).render_append, houter.render_append, opening_eq hfront, opening_eq hclosing]
  simp [String.intercalate_cons_cons]

/-- Without hints and a filter the query is a script, and so its ends can be read. -/
theorem sound_front_outer (hf : 0 ≤ query.first) (hl : 0 ≤ query.last) :
    query.front.Sound ∧ query.outer.Sound := by
  let bare : NumberedQuery := { query with target := { query.target with hints := none }, filter := none }
  have hproper : bare.Proper := ⟨rfl, nofun, hf, hl⟩
  have hscript : Script (bare.sql Setting.sqlServer) := hproper.script
  rw [sql_eq] at hscript
  exact ⟨fun piece hpiece => hscript.sound piece (List.mem_append_left _ hpiece),
    fun piece hpiece => hscript.sound piece (List.mem_append_right _ (List.mem_append_right _ hpiece))⟩

theorem phrase_numbered : phrase "WITH CTE AS" = [.word "WITH", .word "CTE", .word "AS"] ∧
    phrase "(" = [.mark '('] ∧ phrase "SELECT" = [.word "SELECT"] ∧
    phrase "ROW_NUMBER() OVER" = [.word "ROW_NUMBER", .mark '(', .mark ')', .word "OVER"] ∧
    phrase "FROM" = [.word "FROM"] ∧ phrase "CTE" = [.word "CTE"] ∧
    phrase "WHERE (" = [.word "WHERE", .mark '('] ∧ phrase " BETWEEN " = [.word "BETWEEN"] ∧
    phrase " AND " = [.word "AND"] ∧ phrase ")" = [.mark ')'] ∧
    phrase "ORDER BY" = [.word "ORDER", .word "BY"] := by
  decide +kernel

theorem phrase_direction (direction : Direction) :
    phrase (" " ++ direction.sql) = [.word direction.sql] := by
  cases direction <;> decide +kernel

theorem tokens_orderBy {order : List OrderField} (h : order ≠ []) : (orderBy order).tokens =
    [.word "ORDER", .word "BY"] ++ listed (order.map fun item =>
      [.name item.field.name, .word item.direction.sql]) := by
  cases order with
  | nil => exact absurd rfl h
  | cons item order => simp [orderBy, phrase_numbered, tokens_append, phrase_direction, Function.comp_def]

/-- The query above names its columns in the order of its clauses. -/
theorem names_outer (ho : query.order ≠ []) : query.outer.tokens.filterMap (·.name?) = query.outerNames := by
  simp [outer, outerNames, tokens_append, phrase_numbered, tokens_orderBy ho, FieldSet.names, names,
    List.filterMap_cons, List.flatMap_map, ← List.map_eq_flatMap]

/-- The tokens of the query below up to the columns that it projects, which come last. -/
def frontTokens (query : NumberedQuery) : List Token :=
  [.word "WITH", .word "CTE", .word "AS", .mark '(', .word "SELECT", .word "ROW_NUMBER", .mark '(', .mark ')',
    .word "OVER", .mark '('] ++ ([.word "ORDER", .word "BY"] ++ listed (query.order.map fun item =>
    [.name item.field.name, .word item.direction.sql])) ++
  ([.mark ')', .word "AS"] ++ listed (query.projected.map fun column => [.name column]))

theorem tokens_front (hf : query.fields.fields ≠ []) (ho : query.order ≠ []) :
    query.front.tokens = query.frontTokens := by
  obtain ⟨field, fields, hfields⟩ := List.exists_cons_of_ne_nil hf
  rw [frontTokens, ← tokens_orderBy ho, projected, FieldSet.names, hfields]
  simp [front, hfields, phrase_numbered, tokens_append, Token.listed_cons_cons, names, Function.comp_def]

/-- A text of a query of numbered rows: the query below up to what it projects, the rows that it reads, and
    the query above with the columns that it names. -/
def ReadsAs (setting : Setting) (query : NumberedQuery) (sql : String) : Prop :=
  ∃ cte outer tokens, sql = " ".intercalate [cte, render setting (query.source setting), outer] ∧
    setting.marks.read cte.toList = some query.frontTokens ∧
    setting.marks.read outer.toList = some tokens ∧ tokens.filterMap (·.name?) = query.outerNames

/-- A query for a page of a request, which has fields and an order. -/
structure IsFor (query : NumberedQuery) (request : PagedRequest) : Prop where
  fields : query.fields = request.fields
  order : query.order = request.order
  hasFields : query.fields.fields ≠ []
  hasOrder : query.order ≠ []
  first : 0 ≤ query.first
  last : 0 ≤ query.last

theorem IsFor.readsAs {request : PagedRequest} (h : query.IsFor request) (hm : setting.marks.IsReadable) :
    query.ReadsAs setting (render setting (query.sql setting)) := by
  obtain ⟨hfront, houter⟩ := query.sound_front_outer h.first h.last
  refine ⟨_, _, _, render_eq hm h.hasFields, ?_, houter.read_render hm, names_outer h.hasOrder⟩
  rw [hfront.read_render hm, tokens_front h.hasFields h.hasOrder]

end NumberedQuery

/-! ### Requests -/

/-- What is asked for where a request is for a page of rows. -/
def Request.paged? : Request → Option PagedRequest
  | batchQuery request _ _ | skipQuery request _ _ => some request
  | _ => none

namespace Engine
variable {engine : Engine} {request : Request} {paged : PagedRequest}

theorem numberedQuery_of_skipQuery (hd : engine.dialect = .sqlServer)
    (ho : engine.setting.offsetFetch = false) {skip take : Int} {statement : Statement}
    (h : engine.skipQuery paged skip take = .ok statement) :
    ∃ query, statement = .numberedQuery query ∧ query.IsFor paged := by
  obtain ⟨table, haccepts, hs, ht, -, rfl⟩ := skipQuery_eq_ok_iff.mp h
  have hfields : paged.fields.fields ≠ [] := by
    intro hnil
    have hchecked := haccepts.fields
    rw [Check.fields, FieldSet.isEmpty, hnil] at hchecked
    cases hchecked
  have horder : paged.order ≠ [] := by
    intro hnil
    have hordered := haccepts.ordered
    rw [hnil] at hordered
    cases hordered
  simp only [pageStatement, hd, SqlServer.page, ho, Bool.false_eq_true, if_false]
  exact ⟨_, rfl, rfl, rfl, hfields, horder, SqlServer.saturate_nonneg (by omega),
    SqlServer.saturate_nonneg (by omega)⟩

theorem numberedQuery_of_paged (hd : engine.dialect = .sqlServer) (ho : engine.setting.offsetFetch = false)
    (hp : request.paged? = some paged) {statements : List Statement}
    (h : (engine.statements request).outcome = .ok statements) :
    ∃ query, statements = [.numberedQuery query] ∧ query.IsFor paged := by
  cases request with
  | batchQuery request page rows =>
    cases hp
    obtain ⟨statement, hstatement, rfl⟩ := single_eq_ok_iff.mp h
    obtain ⟨query, rfl, hquery⟩ := numberedQuery_of_skipQuery hd ho (batchQuery_eq_ok_iff.mp hstatement).2
    exact ⟨query, rfl, hquery⟩
  | skipQuery request skip take =>
    cases hp
    obtain ⟨statement, hstatement, rfl⟩ := single_eq_ok_iff.mp h
    obtain ⟨query, rfl, hquery⟩ := numberedQuery_of_skipQuery hd ho hstatement
    exact ⟨query, rfl, hquery⟩
  | _ => cases hp

/-- A page by numbered rows has one statement, whose text is a query above a query. The columns that the query
    below projects have different names, and the one above names none but these, exactly if the fields of the
    request are told apart, none is named like the number, and all that rows are ordered by is among them.
    Fields with plain names are told apart. -/
theorem isClosed_iff_of_build (hd : engine.dialect = .sqlServer) (ho : engine.setting.offsetFetch = false)
    (hm : engine.setting.marks.IsReadable) (hp : request.paged? = some paged) {sql : String}
    (h : (engine.build request).outcome = .ok sql) :
    ∃ query, (engine.statements request).outcome = .ok [.numberedQuery query] ∧ query.IsFor paged ∧
      query.ReadsAs engine.setting sql ∧
      (IsClosed query.projected query.outerNames ↔ query.IsCovered) ∧
      ((∀ field ∈ paged.fields.fields, field.IsPlain) →
        paged.fields.fields.Pairwise fun a b => sameName a.name b.name = false) := by
  obtain ⟨statements, hstatements, rfl⟩ := build_eq_ok_iff.mp h
  obtain ⟨query, rfl, hquery⟩ := numberedQuery_of_paged hd ho hp hstatements
  refine ⟨query, hstatements, hquery, ?_, NumberedQuery.isClosed_iff, FieldSet.pairwise_sameName⟩
  rw [Statement.render, List.flatMap_singleton]
  exact hquery.readsAs hm

/-- A page that is ordered by a column that is selected. -/
theorem isClosed_iff_of_build_ordered :
    let engine : Engine := { dialect := .sqlServer, setting := { Setting.sqlServer with offsetFetch := false } }
    let paged : PagedRequest :=
      { table := "T", fields := .singleton { name := "Id" }, order := [⟨{ name := "ID" }, .descending⟩] }
    engine.dialect = .sqlServer ∧ engine.setting.offsetFetch = false ∧ engine.setting.marks.IsReadable ∧
      (Request.batchQuery paged 2 5).paged? = some paged ∧
      ∃ sql, (engine.build (.batchQuery paged 2 5)).outcome = .ok sql ∧
        ∃ query, (engine.statements (.batchQuery paged 2 5)).outcome = .ok [.numberedQuery query] ∧
          query.ReadsAs engine.setting sql ∧ IsClosed query.projected query.outerNames := by
  intro engine paged
  have hm : engine.setting.marks.IsReadable := Marks.IsStandard.isReadable ⟨by decide, rfl⟩
  have haccepts : engine.AcceptsPages paged ⟨["T"]⟩ :=
    ⟨by with_unfolding_all decide, rfl, rfl, rfl, [], rfl⟩
  have hskip : engine.skipQuery paged 10 5 = .ok _ :=
    skipQuery_eq_ok_iff.mpr ⟨_, haccepts, by decide, by decide, by decide, rfl⟩
  have hbuild : (engine.build (.batchQuery paged 2 5)).outcome = .ok _ :=
    build_batchQuery_eq_ok_iff.mpr ⟨by decide, build_skipQuery_eq_ok_iff.mpr ⟨_, hskip, rfl⟩⟩
  obtain ⟨query, hstatements, hquery, hreads, hclosed, -⟩ :=
    isClosed_iff_of_build rfl rfl hm rfl hbuild
  refine ⟨rfl, rfl, hm, rfl, _, hbuild, query, hstatements, hreads, hclosed.mpr ⟨?_, ?_, ?_⟩⟩
  · rw [hquery.fields]
    exact List.pairwise_singleton _ _
  · rw [hquery.fields]
    decide
  · rw [hquery.order, hquery.fields]
    decide

/-- A page that is ordered by a column that is not selected: by an offset it is one query of the table, but
    the query above the numbered rows orders by a column that is not projected for it. -/
theorem numbered_order_not_projected :
    let numbered : Engine := { dialect := .sqlServer, setting := { Setting.sqlServer with offsetFetch := false } }
    let offset : Engine := { dialect := .sqlServer }
    let paged : PagedRequest :=
      { table := "Person", fields := .singleton { name := "Name" }, order := [⟨{ name := "Id" }, .ascending⟩] }
    let request : Request := .skipQuery paged 0 10
    (offset.build request).outcome =
        .ok "SELECT [Name] FROM [Person] ORDER BY [Id] ASC OFFSET 0 ROWS FETCH NEXT 10 ROWS ONLY;" ∧
      (numbered.build request).outcome = .ok ("WITH CTE AS (SELECT ROW_NUMBER() OVER (ORDER BY [Id] ASC) " ++
        "AS [RowNumber], [Name] FROM [Person]) SELECT [Name] FROM CTE WHERE ([RowNumber] BETWEEN 1 AND 10) " ++
        "ORDER BY [Id] ASC;") ∧
      ∃ query, (numbered.statements request).outcome = .ok [.numberedQuery query] ∧
        query.projected = ["RowNumber", "Name"] ∧ "Id" ∈ query.outerNames ∧
        ¬IsClosed query.projected query.outerNames := by
  intro numbered offset paged request
  have htable : Check.table paged.table = .ok ⟨["Person"]⟩ := by
    with_unfolding_all decide
  have hnumbered : numbered.skipQuery paged 0 10 = .ok _ :=
    skipQuery_eq_ok_iff.mpr ⟨_, ⟨htable, rfl, rfl, rfl, [], rfl⟩, by decide, by decide, by decide, rfl⟩
  have hoffset : offset.skipQuery paged 0 10 = .ok _ :=
    skipQuery_eq_ok_iff.mpr ⟨_, ⟨htable, rfl, rfl, rfl, [], rfl⟩, by decide, by decide, by decide, rfl⟩
  refine ⟨build_skipQuery_eq_ok_iff.mpr ⟨_, hoffset, by decide +kernel⟩,
    build_skipQuery_eq_ok_iff.mpr ⟨_, hnumbered, by decide +kernel⟩,
    _, single_eq_ok_iff.mpr ⟨_, hnumbered, rfl⟩, rfl, by decide, fun hclosed => ?_⟩
  obtain ⟨-, -, hordered⟩ := NumberedQuery.isClosed_iff.mp hclosed
  revert hordered
  decide

end Engine

end CrudSql

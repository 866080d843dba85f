import CrudSql.Proofs.Build
import CrudSql.Proofs.Render

/-! Pages. A page is asked for by numbers, which are accepted as long as no row beyond the largest number is
    reached; in every dialect the text states, by the clause that the dialect has for it, exactly the rows
    with the next numbers after those that are skipped. -/

namespace CrudSql
open Sql

/-! ### Rows by number -/

section Rows
variable {α : Type}

/-- The rows whose numbers, counted from 1, lie in a range. -/
def rowsNumbered (first last : Int) (rows : List α) : List α :=
  ((rows.zipIdx 1).filter fun row => first ≤ row.2 ∧ row.2 ≤ last).map (·.1)

theorem filter_zipIdx (first last start : Nat) (rows : List α) :
    ((rows.zipIdx start).filter fun row => first ≤ row.2 ∧ row.2 < last).map (·.1) =
      (rows.take (last - start)).drop (first - start) := by
  induction rows generalizing start with
  | nil => simp
  | cons row rows ih =>
    rw [List.zipIdx_cons, List.filter_cons]
    by_cases hlast : start < last
    · obtain ⟨more, hmore⟩ : ∃ more, last - start = more + 1 := ⟨last - (start + 1), by omega⟩
      have htail : last - (start + 1) = more := by omega
      rw [hmore, List.take_succ_cons]
      by_cases hfirst : first ≤ start
      · rw [if_pos (by simp [hfirst, hlast]), List.map_cons, ih, htail]
        rw [Nat.sub_eq_zero_of_le hfirst, Nat.sub_eq_zero_of_le (Nat.le_succ_of_le hfirst)]
        rfl
      · obtain ⟨less, hless⟩ : ∃ less, first - start = less + 1 := ⟨first - (start + 1), by omega⟩
        have hdrop : first - (start + 1) = less := by omega
        rw [if_neg (by simp [hfirst]), ih, htail, hdrop, hless, List.drop_succ_cons]
    · have hnone : last - start = 0 := by omega
      have htail : last - (start + 1) = 0 := by omega
      rw [if_neg (by simp [hlast]), ih, hnone, htail, List.take_zero, List.take_zero, List.drop_nil,
        List.drop_nil]

/-- The rows behind those that are skipped have the next numbers. -/
theorem rowsNumbered_eq {skip take : Int} (hs : 0 ≤ skip) (ht : 0 ≤ take) (rows : List α) :
    rowsNumbered (skip + 1) (skip + take) rows = (rows.drop skip.toNat).take take.toNat := by
  obtain ⟨s, rfl⟩ := Int.eq_ofNat_of_zero_le hs
  obtain ⟨t, rfl⟩ := Int.eq_ofNat_of_zero_le ht
  have hrange : ∀ row : α × Nat, decide ((s : Int) + 1 ≤ row.2 ∧ (row.2 : Int) ≤ s + t) =
      decide (s + 1 ≤ row.2 ∧ row.2 < s + t + 1) := by
    intro row
    rw [decide_eq_decide]
    omega
  rw [rowsNumbered]
  simp only [hrange]
  rw [filter_zipIdx, Nat.add_sub_cancel, Nat.add_sub_cancel, List.drop_take]
  simp

/-- Ranges of numbers that follow each other give their rows one behind the other. -/
theorem rowsNumbered_append {first last more : Int} (hf : 0 < first) (hl : first ≤ last + 1) (hm : last ≤ more)
    (rows : List α) :
    rowsNumbered first last rows ++ rowsNumbered (last + 1) more rows = rowsNumbered first more rows := by
  obtain ⟨skip, rfl⟩ : ∃ skip, first = skip + 1 := ⟨first - 1, by omega⟩
  obtain ⟨take, rfl⟩ : ∃ take, last = skip + take := ⟨last - skip, by omega⟩
  obtain ⟨next, rfl⟩ : ∃ next, more = skip + take + next := ⟨more - (skip + take), by omega⟩
  rw [rowsNumbered_eq (by omega) (by omega), rowsNumbered_eq (by omega) (by omega), Int.add_assoc skip,
    rowsNumbered_eq (by omega) (by omega), Int.toNat_add (by omega) (by omega),
    Int.toNat_add (by omega) (by omega), List.take_add, List.drop_drop]

theorem rowsNumbered_sublist (first last : Int) (rows : List α) :
    (rowsNumbered first last rows).Sublist rows := by
  have hsublist := (List.filter_sublist (l := rows.zipIdx 1)
    (p := fun row => first ≤ row.2 ∧ row.2 ≤ last)).map (·.1)
  rwa [List.zipIdx_map_fst] at hsublist

/-- No row is in two ranges of numbers that follow each other. -/
theorem disjoint_rowsNumbered {first last more : Int} (hf : 0 < first) (hl : first ≤ last + 1)
    (hm : last ≤ more) {rows : List α} (hrows : rows.Nodup) :
    (rowsNumbered first last rows).Disjoint (rowsNumbered (last + 1) more rows) := by
  have hboth := hrows.sublist (rowsNumbered_sublist first more rows)
  rw [← rowsNumbered_append hf hl hm] at hboth
  exact List.disjoint_of_nodup_append hboth

end Rows

/-! ### Clauses -/

/-- How a statement tells the rows of a page from all that it selects. -/
inductive PageClause where
  | offsetFetch (skip take : Int)
  | between (first last : Int)
  | limitOffset (take skip : Int)
  | limitAfter (skip take : Int)
  | limitOnly (take : Int)

namespace PageClause

/-- The clause as it is written. -/
def text (setting : Setting) : PageClause → String
  | offsetFetch skip take => s!"OFFSET {skip} ROWS FETCH NEXT {take} ROWS ONLY"
  | between first last =>
    s!"WHERE ({Field.quoted ⟨NumberedQuery.rowNumber, none⟩ setting} BETWEEN {first} AND {last})"
  | limitOffset take skip => s!"LIMIT {take} OFFSET {skip}"
  | limitAfter skip take => s!"LIMIT {skip}, {take}"
  | limitOnly take => s!"LIMIT {take}"

/-- The rows that a clause leaves of all rows, given in their order. -/
def rows {α : Type} : PageClause → List α → List α
  | offsetFetch skip take, rows | limitOffset take skip, rows | limitAfter skip take, rows =>
    (rows.drop skip.toNat).take take.toNat
  | between first last, rows => rowsNumbered first last rows
  | limitOnly take, rows => rows.take take.toNat

/-- The parts of which the clause is made. -/
def atoms : PageClause → List Atom
  | offsetFetch skip take => (Window.offsetFetch skip take).atoms
  | between first last =>
    [.fixed "WHERE (", .name NumberedQuery.rowNumber, .fixed " BETWEEN ", .number first,
      .fixed " AND ", .number last, .fixed ")"]
  | limitOffset take skip => (Window.limitOffset take skip).atoms
  | limitAfter skip take => (Window.limitAfter skip take).atoms
  | limitOnly take => (Window.limitOnly take).atoms

theorem chars_atoms (setting : Setting) (clause : PageClause) :
    String.ofList (clause.atoms.flatMap (·.chars setting)) = clause.text setting := by
  apply String.toList_injective
  cases clause <;> simp [atoms, text, Window.atoms, Atom.chars, Field.quoted, toString]

end PageClause

/-! ### Statements -/

/-- A query up to its window. -/
def Query.selection (setting : Setting) (query : Query) : Sql :=
  word "SELECT" ++
  (match query.top with
    | some count => [.token [.fixed "TOP (", .number count, .fixed ")"]]
    | none => []) ++
  query.projection.sql ++ word "FROM" ++ query.target.sql ++ whereClause setting query.filter ++
  orderBy query.order

theorem Query.sql_window (setting : Setting) (query : Query) (window : Window) :
    ({ query with window := some window } : Query).sql setting =
      query.selection setting ++ .token window.atoms :: stop := by
  rw [sql, selection]
  exact List.append_assoc _ _ _

/-- A query of numbered rows up to the range of the numbers. -/
def NumberedQuery.selection (setting : Setting) (query : NumberedQuery) : Sql :=
  word "WITH CTE AS" ++
  parenthesized (
    word "SELECT" ++ word "ROW_NUMBER() OVER" ++ parenthesized (orderBy query.order) ++
    named rowNumber ++ comma ++ columns query.fields.fields ++ word "FROM" ++ query.target.sql ++
    whereClause setting query.filter) ++
  word "SELECT" ++ columns query.fields.fields ++ word "FROM" ++ word "CTE"

theorem NumberedQuery.sql_range (setting : Setting) (query : NumberedQuery) (first last : Int) :
    ({ query with first, last } : NumberedQuery).sql setting =
      query.selection setting ++ .token (PageClause.between first last).atoms ::
        (orderBy query.order ++ stop) := by
  rw [sql, selection, List.append_assoc, List.append_assoc]
  rfl

namespace Engine
variable {engine : Engine} {request : PagedRequest} {table : Ident} {skip take : Int}

/-- The clause of a dialect for a page. -/
def pageClause (engine : Engine) (skip take : Int) : PageClause :=
  match engine.dialect with
  | .sqlServer =>
    if engine.setting.offsetFetch then .offsetFetch skip take else .between (skip + 1) (skip + take)
  | .postgreSql => .limitOffset take skip
  | .mySql => if skip = 0 then .limitOnly take else .limitAfter skip take

theorem gap_pageClause (hs : 0 ≤ skip) (ht : 0 ≤ take) :
    Piece.gap ((engine.pageClause skip take).atoms.flatMap (·.chars engine.setting)).reverse = [' '] := by
  unfold pageClause
  cases engine.dialect with
  | sqlServer =>
    cases engine.setting.offsetFetch with
    | true => exact Piece.gap_concat [_, _, _, _] rfl
    | false => exact Piece.gap_concat [_, _, _, _, _, _] rfl
  | postgreSql => exact Piece.gap_concat [_, _, _] (Piece.gap_number hs)
  | mySql =>
    by_cases hskip : skip = 0
    · simp only [if_pos hskip]
      exact Piece.gap_concat [_] (Piece.gap_number ht)
    · simp only [if_neg hskip]
      exact Piece.gap_concat [_, _, _] (Piece.gap_number ht)

theorem SqlServer.saturate_eq {number : Int} (h : 0 ≤ number) (hfits : number ≤ maxRow) :
    SqlServer.saturate number = number := by
  rw [maxRow] at hfits
  rw [SqlServer.saturate]
  omega

/-- The statements for two pages are the same but for the clause. -/
theorem exists_sql_pageStatement (engine : Engine) (request : PagedRequest) (table : Ident) :
    ∃ before after : Sql, ∀ skip take : Int, 0 ≤ skip → 1 ≤ take → skip + take ≤ maxRow →
      (engine.pageStatement request table skip take).sql engine.setting =
        before ++ .token (engine.pageClause skip take).atoms :: after := by
  have hwindow := fun (target : Target) (window : Window) => Query.sql_window engine.setting {
    projection := .fields request.fields
    target
    filter := engine.filterOf "" request.filter
    order := request.order } window
  have hrange := NumberedQuery.sql_range engine.setting {
    fields := request.fields
    target := ⟨table, request.hints⟩
    filter := engine.filterOf "" request.filter
    order := request.order
    first := 0
    last := 0 }
  unfold pageStatement pageClause
  cases engine.dialect with
  | sqlServer =>
    simp only [SqlServer.page]
    cases engine.setting.offsetFetch with
    | true => exact ⟨_, stop, fun skip take _ _ _ => hwindow ⟨table, request.hints⟩ (.offsetFetch skip take)⟩
    | false =>
      refine ⟨_, _, fun skip take hskip htake hfits => Eq.trans ?_ (hrange (skip + 1) (skip + take))⟩
      rw [SqlServer.saturate_eq (by omega) (by omega), SqlServer.saturate_eq (by omega) hfits]
      rfl
  | postgreSql => exact ⟨_, stop, fun skip take _ _ _ => hwindow ⟨table, none⟩ (.limitOffset take skip)⟩
  | mySql =>
    have hlimit := hwindow ⟨table, none⟩
    generalize Query.selection engine.setting _ = before at hlimit
    refine ⟨before, stop, fun skip take _ _ _ => ?_⟩
    simp only [MySql.page]
    by_cases hskip : skip = 0
    · simp only [if_pos hskip]
      exact hlimit (.limitOnly take)
    · simp only [if_neg hskip]
      exact hlimit (.limitAfter skip take)

/-! ### Requests -/

theorem skipQuery_eq_ok_iff {statement : Statement} : engine.skipQuery request skip take = .ok statement ↔
    ∃ table, engine.AcceptsPages request table ∧ 0 ≤ skip ∧ 1 ≤ take ∧ skip + take ≤ maxRow ∧
      statement = engine.pageStatement request table skip take := by
  simp only [skipQuery, throw_bind, ite_throw_eq_ok, page_eq_ok_iff, Int.not_lt]
  constructor
  · rintro ⟨hskip, htake, table, haccepts, hfits, hstatement⟩
    exact ⟨table, haccepts, hskip, htake, hfits, hstatement⟩
  · rintro ⟨table, haccepts, hskip, htake, hfits, hstatement⟩
    exact ⟨hskip, htake, table, haccepts, hfits, hstatement⟩

/-- A page is asked for like the rows that it has. -/
theorem batchQuery_eq_ok_iff {page rows : Int} {statement : Statement} :
    engine.batchQuery request page rows = .ok statement ↔
      0 ≤ page ∧ engine.skipQuery request (page * rows) rows = .ok statement := by
  simp only [batchQuery, skipQuery, throw_bind, ite_throw_eq_ok, Int.not_lt]
  constructor
  · rintro ⟨hpage, hrows, -, hstatement⟩
    exact ⟨hpage, Int.mul_nonneg hpage (by omega), hrows, hstatement⟩
  · rintro ⟨hpage, hskip, hrows, hstatement⟩
    obtain ⟨table, -, hfits, -⟩ := page_eq_ok_iff.mp hstatement
    exact ⟨hpage, hrows, by omega, hstatement⟩

theorem build_skipQuery_eq_ok_iff {sql : String} : (engine.build (.skipQuery request skip take)).outcome = .ok sql ↔
    ∃ statement, engine.skipQuery request skip take = .ok statement ∧
      sql = Statement.render engine.setting [statement] := by
  rw [build_eq_ok_iff]
  constructor
  · rintro ⟨statements, hstatements, hsql⟩
    obtain ⟨statement, hstatement, rfl⟩ := single_eq_ok_iff.mp hstatements
    exact ⟨statement, hstatement, hsql⟩
  · rintro ⟨statement, hstatement, hsql⟩
    exact ⟨[statement], single_eq_ok_iff.mpr ⟨statement, hstatement, rfl⟩, hsql⟩

theorem build_batchQuery_eq_ok_iff {page rows : Int} {sql : String} :
    (engine.build (.batchQuery request page rows)).outcome = .ok sql ↔
      0 ≤ page ∧ (engine.build (.skipQuery request (page * rows) rows)).outcome = .ok sql := by
  rw [build_skipQuery_eq_ok_iff, build_eq_ok_iff]
  constructor
  · rintro ⟨statements, hstatements, hsql⟩
    obtain ⟨statement, hstatement, rfl⟩ := single_eq_ok_iff.mp hstatements
    obtain ⟨hpage, hstatement⟩ := batchQuery_eq_ok_iff.mp hstatement
    exact ⟨hpage, statement, hstatement, hsql⟩
  · rintro ⟨hpage, statement, hstatement, hsql⟩
    have hbatch := batchQuery_eq_ok_iff.mpr ⟨hpage, hstatement⟩
    exact ⟨[statement], single_eq_ok_iff.mpr ⟨statement, hbatch, rfl⟩, hsql⟩

/-! ### All pages -/

/-- What the rows of a request's pages are, whatever the page. -/
structure PagesExactly (engine : Engine) (request : PagedRequest) : Prop where
  /-- A page is built exactly if its last row has a number. -/
  page_iff : ∀ page perPage : Int, (∃ sql, (engine.build (.batchQuery request page perPage)).outcome = .ok sql) ↔
    0 ≤ page ∧ 1 ≤ perPage ∧ (page + 1) * perPage ≤ 2 ^ 63 - 1
  skip_iff : ∀ skip take : Int, (∃ sql, (engine.build (.skipQuery request skip take)).outcome = .ok sql) ↔
    0 ≤ skip ∧ 1 ≤ take ∧ skip + take ≤ 2 ^ 63 - 1
  page_eq_skip : ∀ (page perPage : Int) (sql : String),
    (engine.build (.batchQuery request page perPage)).outcome = .ok sql →
      (engine.build (.skipQuery request (page * perPage) perPage)).outcome = .ok sql
  /-- In the texts only the clause differs from page to page. -/
  text : ∃ front back : String, ∀ (skip take : Int) (sql : String),
    (engine.build (.skipQuery request skip take)).outcome = .ok sql →
      sql = front ++ (engine.pageClause skip take).text engine.setting ++ back
  rows : ∀ skip take : Int, 0 ≤ skip → 1 ≤ take → ∀ {α : Type} (rows : List α),
    (engine.pageClause skip take).rows rows = rowsNumbered (skip + 1) (skip + take) rows
  adjacent : ∀ page perPage : Int, 0 ≤ page → 1 ≤ perPage → ∀ {α : Type} (rows : List α),
    (engine.pageClause (page * perPage) perPage).rows rows ++
        (engine.pageClause ((page + 1) * perPage) perPage).rows rows =
      rowsNumbered (page * perPage + 1) ((page + 2) * perPage) rows
  disjoint : ∀ page perPage : Int, 0 ≤ page → 1 ≤ perPage → ∀ {α : Type} {rows : List α}, rows.Nodup →
    ((engine.pageClause (page * perPage) perPage).rows rows).Disjoint
      ((engine.pageClause ((page + 1) * perPage) perPage).rows rows)

theorem exists_build_skipQuery_iff (h : engine.AcceptsPages request table) :
    (∃ sql, (engine.build (.skipQuery request skip take)).outcome = .ok sql) ↔
      0 ≤ skip ∧ 1 ≤ take ∧ skip + take ≤ maxRow := by
  simp only [build_skipQuery_eq_ok_iff, skipQuery_eq_ok_iff]
  constructor
  · rintro ⟨sql, statement, ⟨table, -, hskip, htake, hfits, -⟩, -⟩
    exact ⟨hskip, htake, hfits⟩
  · rintro ⟨hskip, htake, hfits⟩
    exact ⟨_, _, ⟨table, h, hskip, htake, hfits, rfl⟩, rfl⟩

/-- The rows of a clause are those that its page has by their numbers. -/
theorem rows_pageClause (hs : 0 ≤ skip) (ht : 0 ≤ take) {α : Type} (rows : List α) :
    (engine.pageClause skip take).rows rows = rowsNumbered (skip + 1) (skip + take) rows := by
  have hnumbered := rowsNumbered_eq hs ht rows
  unfold pageClause
  cases engine.dialect with
  | sqlServer =>
    cases engine.setting.offsetFetch with
    | true => exact hnumbered.symm
    | false => rfl
  | postgreSql => exact hnumbered.symm
  | mySql =>
    by_cases hskip : skip = 0
    · simp only [if_pos hskip]
      rw [hnumbered, hskip]
      rfl
    · simp only [if_neg hskip]
      exact hnumbered.symm

theorem exists_text_pages (h : engine.AcceptsPages request table) : ∃ front back : String,
    ∀ (skip take : Int) (sql : String), (engine.build (.skipQuery request skip take)).outcome = .ok sql →
      sql = front ++ (engine.pageClause skip take).text engine.setting ++ back := by
  obtain ⟨before, after, hsql⟩ := exists_sql_pageStatement engine request table
  obtain ⟨front, back, hrender⟩ := exists_render_around engine.setting before after
  refine ⟨front, back, fun skip take sql hbuild => ?_⟩
  obtain ⟨statement, hstatement, rfl⟩ := build_skipQuery_eq_ok_iff.mp hbuild
  obtain ⟨table', haccepts, hskip, htake, hfits, rfl⟩ := skipQuery_eq_ok_iff.mp hstatement
  cases haccepts.table.symm.trans h.table
  rw [Statement.render, List.flatMap_singleton, hsql skip take hskip htake hfits,
    hrender _ (gap_pageClause hskip (by omega)), PageClause.chars_atoms]

theorem next_page (page perPage : Int) : (page + 1) * perPage = page * perPage + perPage := by
  rw [Int.add_mul, Int.one_mul]

/-- Paging is exact. A page is built exactly if no number beyond the largest is reached, by the text for the
    rows after those on the pages before; and the clause in this text leaves the rows with the next numbers,
    so that each page begins where the one before it ends. -/
theorem pagesExactly_of_accepts (h : engine.AcceptsPages request table) : engine.PagesExactly request where
  page_iff page perPage := by
    simp only [build_batchQuery_eq_ok_iff, exists_and_left, exists_build_skipQuery_iff h, next_page]
    constructor
    · rintro ⟨hpage, -, hperPage, hfits⟩
      exact ⟨hpage, hperPage, hfits⟩
    · rintro ⟨hpage, hperPage, hfits⟩
      exact ⟨hpage, Int.mul_nonneg hpage (by omega), hperPage, hfits⟩
  skip_iff skip take := exists_build_skipQuery_iff h
  page_eq_skip page perPage sql hbuild := (build_batchQuery_eq_ok_iff.mp hbuild).2
  text := exists_text_pages h
  rows skip take hskip htake α rows := rows_pageClause hskip (by omega) rows
  adjacent page perPage hpage hperPage α rows := by
    have hskip : 0 ≤ page * perPage := Int.mul_nonneg hpage (by omega)
    have hlast : (page + 2) * perPage = page * perPage + perPage + perPage := by
      rw [← next_page, ← next_page, Int.add_assoc]
      rfl
    rw [next_page, hlast, rows_pageClause hskip (by omega), rows_pageClause (by omega) (by omega),
      rowsNumbered_append (by omega) (by omega) (by omega)]
  disjoint page perPage hpage hperPage α rows hrows := by
    have hskip : 0 ≤ page * perPage := Int.mul_nonneg hpage (by omega)
    rw [next_page, rows_pageClause hskip (by omega), rows_pageClause (by omega) (by omega)]
    exact disjoint_rowsNumbered (by omega) (by omega) (by omega) hrows

/-- Pages of two rows on a server that has no clause for pages, up to the last one. -/
theorem pagesExactly_of_accepts_numbered :
    let engine : Engine := { dialect := .sqlServer, setting := { Setting.sqlServer with offsetFetch := false } }
    let request : PagedRequest :=
      { table := "T", fields := .singleton { name := "Id" }, order := [⟨{ name := "Id" }, .ascending⟩] }
    engine.AcceptsPages request ⟨["T"]⟩ ∧ engine.PagesExactly request ∧
      (engine.build (.batchQuery request 10 2)).outcome = .ok ("WITH CTE AS (SELECT ROW_NUMBER() OVER " ++
        "(ORDER BY [Id] ASC) AS [RowNumber], [Id] FROM [T]) SELECT [Id] FROM CTE " ++
        "WHERE ([RowNumber] BETWEEN 21 AND 22) ORDER BY [Id] ASC;") ∧
      (∃ sql, (engine.build (.batchQuery request (2 ^ 62 - 2) 2)).outcome = .ok sql) ∧
      ¬∃ sql, (engine.build (.batchQuery request (2 ^ 62 - 1) 2)).outcome = .ok sql := by
  intro engine request
  have haccepts : engine.AcceptsPages request ⟨["T"]⟩ :=
    ⟨by with_unfolding_all decide, rfl, rfl, rfl, [], rfl⟩
  have hpages := pagesExactly_of_accepts haccepts
  have hskip : engine.skipQuery request 20 2 = .ok _ :=
    skipQuery_eq_ok_iff.mpr ⟨_, haccepts, by decide, by decide, by decide, rfl⟩
  refine ⟨haccepts, hpages, ?_, (hpages.page_iff _ _).mpr (by decide), fun hbuilt => ?_⟩
  · refine build_batchQuery_eq_ok_iff.mpr ⟨by decide, build_skipQuery_eq_ok_iff.mpr ⟨_, hskip, ?_⟩⟩
    decide +kernel
  · exact absurd ((hpages.page_iff _ _).mp hbuilt) (by decide)

end Engine

end CrudSql

import CrudSql.Proofs.Statement.Rows

/-! The tables that statements read and write. A statement has its table at one place, and the hints for the
    table stand directly behind the quoted name, whatever else the statement says. -/

namespace CrudSql
open Sql Text

namespace Sql
variable {setting : Setting} {table : Ident}

/-- Text of the caller behind a table stands directly behind the quoted name, whatever is around both. -/
theorem exists_render_verbatim (lead rest : Sql) (ht : table.parts ≠ []) {given : String} (hg : given ≠ "") :
    ∃ after, render setting (lead ++ (path table ++ Piece.token [.verbatim given] :: rest)) =
      opening setting lead ++ table.quoted setting ++ String.ofList (Piece.gap [setting.closingQuote]) ++
        given ++ after := by
  obtain ⟨init, hname⟩ := exists_quotedChars_eq setting ht
  have hne : table.quotedChars setting ≠ [] := by
    simp [hname]
  have hchars : ([.verbatim given] : List Atom).flatMap (·.chars setting) = given.toList :=
    List.flatMap_singleton ..
  have hwritten : given.toList ≠ [] := by
    rwa [ne_eq, String.toList_eq_nil_iff]
  have hlast : given.toList.reverse ≠ [] := by
    rwa [ne_eq, List.reverse_eq_nil_iff]
  have hgap : ∀ text, Piece.gap ((table.quotedChars setting).reverse ++ text) = Piece.gap [setting.closingQuote] := by
    intro text
    rw [hname, List.reverse_append]
    rfl
  have hverbatim : ∀ text, Piece.after setting text (.token [.verbatim given]) =
      given.toList.reverse ++ (Piece.gap text ++ text) := by
    intro text
    rw [Piece.after_token (hchars.symm ▸ hwritten), hchars]
  -- What follows depends only on the last character that the caller gives.
  obtain ⟨more, hmore⟩ := exists_onto setting rest (Piece.gap given.toList.reverse)
  have htext : (lead ++ (path table ++ Piece.token [.verbatim given] :: rest)).onto setting [] =
      more ++ (given.toList.reverse ++ (Piece.gap [setting.closingQuote] ++ ((table.quotedChars setting).reverse ++
        (Piece.gap (lead.onto setting []) ++ lead.onto setting [])))) := by
    rw [onto_append, onto_append, onto_cons, onto_path hne, hverbatim, hgap, hmore _ (Piece.gap_append hlast)]
  have hspace : (Piece.gap [setting.closingQuote]).reverse = Piece.gap [setting.closingQuote] := by
    simp only [Piece.gap]
    split <;> rfl
  refine ⟨String.ofList more.reverse, ?_⟩
  apply String.toList_injective
  simp [render, chars, htext, opening, Ident.quoted, hspace]

end Sql

namespace Statement
variable {setting : Setting} {s : Statement} {target : Target}

/-- The table whose rows a statement reads or writes. -/
def target? : Statement → Option Target
  | query q => some q.target
  | numberedQuery q => some q.target
  | delete target _ | update target .. => some target
  | insert i => some i.target
  | merge m => some m.target
  | truncate .. | selectKeys .. | identityInsert .. => none

/-- A statement up to its table. -/
def lead : Statement → Sql
  | query q =>
    word "SELECT" ++
    (match q.top with
      | some count => [.token [.fixed "TOP (", .number count, .fixed ")"]]
      | none => []) ++
    q.projection.sql ++ word "FROM"
  | numberedQuery q =>
    word "WITH CTE AS" ++ .token [.fixed "("] ::
      (word "SELECT" ++ word "ROW_NUMBER() OVER" ++ parenthesized (orderBy q.order) ++
      named NumberedQuery.rowNumber ++ comma ++ Sql.columns q.fields.fields ++ word "FROM")
  | delete .. => word "DELETE" ++ word "FROM"
  | update .. => word "UPDATE"
  | insert _ => word "INSERT" ++ word "INTO"
  | merge _ => word "MERGE"
  | truncate .. | selectKeys .. | identityInsert .. => []

theorem exists_sql_eq (setting : Setting) (h : s.target? = some target) :
    ∃ rest, s.sql setting = s.lead ++ (target.sql ++ rest) := by
  cases s with
  | query q =>
    cases h
    simp only [sql, Query.sql, lead, List.append_assoc]
    exact ⟨_, rfl⟩
  | numberedQuery q =>
    cases h
    simp only [sql, NumberedQuery.sql, lead, parenthesized, List.append_assoc, List.cons_append]
    exact ⟨_, rfl⟩
  | delete target filter =>
    cases h
    simp only [sql, lead, List.append_assoc]
    exact ⟨_, rfl⟩
  | update target updates row scope =>
    cases h
    simp only [sql, lead, List.append_assoc]
    exact ⟨_, rfl⟩
  | insert i =>
    cases h
    simp only [sql, Insert.sql_eq, Insert.front, lead, List.append_assoc]
    exact ⟨_, rfl⟩
  | merge m =>
    cases h
    simp only [sql, Merge.sql_eq, Merge.front, lead, List.append_assoc]
    exact ⟨_, rfl⟩
  | truncate | selectKeys | identityInsert => cases h

/-- The text of a statement has these hints, without the white space around them, directly behind the quoted
    name of its table. -/
def HasHints (setting : Setting) (table : Ident) (hints : String) (s : Statement) : Prop :=
  ∃ after, render setting [s] = Sql.opening setting s.lead ++ table.quoted setting ++
    String.ofList (Piece.gap [setting.closingQuote]) ++ trim hints ++ after

theorem hasHints_of_target {table : Ident} {hints : String} (h : s.target? = some ⟨table, some hints⟩)
    (ht : table.parts ≠ []) (hh : trim hints ≠ "") : s.HasHints setting table hints := by
  obtain ⟨rest, hsql⟩ := exists_sql_eq setting h
  rw [HasHints, render, List.flatMap_singleton, hsql, Target.sql, List.append_assoc]
  exact exists_render_verbatim s.lead rest ht hh

end Statement

end CrudSql

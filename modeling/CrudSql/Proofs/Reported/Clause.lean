import CrudSql.Proofs.Correlated

/-! Clauses that report keys. Each has a keyword of its own and lists its items behind it, and it is left out if
    there are none; in the tokens of an insert or a merge, the keyword stands nowhere else. -/

namespace CrudSql
open Sql
open Token (listed names number)

/-- A clause that lists items behind a keyword, and others behind them. Without items there is none. -/
def keyClause (keyword : String) (items others : List (List Token)) : List Token :=
  if items = [] then [] else .word keyword :: listed (items ++ others)

/-- Tokens with such a clause, which is not continued, and without its keyword elsewhere. -/
def HasClause (keyword : String) (items others : List (List Token)) (tokens : List Token) : Prop :=
  ∃ before after, tokens = before ++ (keyClause keyword items others ++ after) ∧ .word keyword ∉ before ∧
    .word keyword ∉ after ∧ after.head? ≠ some (.mark ',')

theorem HasClause.of_not_mem {keyword : String} {tokens : List Token} (h : .word keyword ∉ tokens) :
    HasClause keyword [] [] tokens :=
  ⟨tokens, [], by simp [keyClause], h, List.not_mem_nil, by simp⟩

theorem hasClause_of_unsaid {keyword : String} (hk : keyword ∈ ["OUTPUT", "RETURNING"]) {a clause b : Sql}
    {items others : List (List Token)} (hs : (a ++ (clause ++ b)).Sound) (ha : ¬a.Says keyword)
    (hclause : clause.tokens = keyClause keyword items others) (hb : ¬b.Says keyword)
    (hnext : b.tokens.head? ≠ some (.mark ',')) : HasClause keyword items others (a ++ (clause ++ b)).tokens := by
  have hsound : a.Sound ∧ b.Sound :=
    ⟨fun piece hpiece => hs piece (List.mem_append_left _ hpiece),
      fun piece hpiece => hs piece (List.mem_append_right _ (List.mem_append_right _ hpiece))⟩
  refine ⟨a.tokens, b.tokens, ?_, not_mem_tokens_of_unsaid hk hsound.1 ha,
    not_mem_tokens_of_unsaid hk hsound.2 hb, hnext⟩
  rw [tokens_append, tokens_append, hclause]

/-- The number of a row as the last column of its keys. -/
def numbered (row : Nat) : List Token := [number row, .word "AS", .name orderColumn]

/-- A column of the written row. -/
def outputItem (name : String) : List Token := [.word "INSERTED", .mark '.', .name name]

/-- The number that the source of a merge has for the row. -/
def outputNumber : List Token := [.word "S", .mark '.', .name orderColumn]

theorem tokens_outputClause_eq (keys : List KeyColumn) (isNumbered : Bool) :
    (outputClause keys isNumbered).tokens = keyClause "OUTPUT" ((keys.map (·.field.name)).map outputItem)
      (if isNumbered then [outputNumber] else []) := by
  rw [tokens_outputClause, keyClause, List.map_map]
  cases keys <;> rfl

theorem Returned.tokens_sql_eq (returned : Returned) : returned.sql.tokens =
    keyClause "RETURNING" ((returned.keys.map (·.field.name)).map fun name => [.name name])
      (returned.row.toList.map numbered) := by
  obtain ⟨keys, row⟩ := returned
  have hnames : (keys.map (·.field.name)).map (fun name => [Token.name name]) = names (keys.map (·.field)) := by
    simp [names]
  rw [Returned.tokens_sql, keyClause, hnames]
  by_cases hkeys : keys = []
  · rw [if_pos hkeys, if_pos (by simp [names, hkeys])]
  · have hne : names (keys.map (·.field)) ≠ [] := by
      simpa [names] using hkeys
    rw [if_neg hkeys, if_neg hne]
    cases row with
    | none => simp
    | some row =>
      rw [Option.toList_some, List.map_singleton, Token.listed_concat, if_neg hne]
      rfl

theorem tokens_selectKeys_eq (setting : Setting) (keys : List KeyColumn) (row : Nat) (isNumbered : Bool) :
    ((Statement.selectKeys keys row isNumbered).sql setting).tokens =
      keyClause "SELECT" (keys.filterMap (·.selectTokens? row)) (if isNumbered then [numbered row] else []) ++
        if keys.filterMap (·.selectTokens? row) = [] then [] else [.mark ';'] := by
  rw [tokens_selectKeys, keyClause]
  split <;> simp [numbered]

/-! ### Inserts and merges -/

namespace Insert
variable {insert : Insert}

theorem hasClause_output (hf : insert.conflict = .fail) (hr : insert.returning = {}) :
    HasClause "OUTPUT" ((insert.output.map (·.field.name)).map outputItem) [] insert.body.tokens := by
  have hsound := insert.sound_body
  simp only [body, clauses, List.append_assoc, hf, hr] at hsound ⊢
  refine hasClause_of_unsaid (by simp) hsound ?columns (tokens_outputClause_eq _ false) ?rest ?next
  case columns => simp
  case rest => cases insert.source <;> simp [Conflict.sql, Returned.sql]
  case next =>
    cases insert.overriding <;> cases insert.source <;> simp [tokens_append, phrase_row]

theorem hasClause_returning (ht : insert.target.hints = none) :
    HasClause "RETURNING" ((insert.returning.keys.map (·.field.name)).map fun name => [.name name])
      (insert.returning.row.toList.map numbered) insert.body.tokens := by
  have hclauses : ¬insert.clauses.Says "RETURNING" := by
    intro hsays
    refine not_says_returning ht ?_
    rw [write, says_append]
    exact Or.inr hsays
  exact hasClause_of_unsaid (by simp) insert.sound_body hclauses insert.returning.tokens_sql_eq says_stop
    (by simp)

theorem hasClause_select (ht : insert.target.hints = none) (hr : insert.returning = {}) :
    HasClause "SELECT" [] [] insert.body.tokens := by
  refine .of_not_mem fun hmem => not_mem_write ht (by simp : "SELECT" ∈ ["RETURNING", "SELECT"]) ?_
  rw [body, hr, tokens_append] at hmem
  rw [write, tokens_append]
  refine List.mem_append_right _ ((List.mem_append.mp hmem).resolve_right ?_)
  simp [Returned.sql]

end Insert

theorem Merge.hasClause_output (merge : Merge) :
    HasClause "OUTPUT" ((merge.output.map (·.field.name)).map outputItem)
      (if merge.numbered then [outputNumber] else []) merge.body.tokens := by
  have hbody : merge.body = (word "AS T USING" ++
      parenthesized (word "VALUES" ++ commaSeparated ((List.range merge.rows).map merge.sourceRow)) ++
      (word "AS S" ++ parenthesized (Sql.columns merge.source.fields ++
        (if merge.numbered then comma ++ quoted orderColumn else []))) ++ merge.write) ++
      (outputClause merge.output merge.numbered ++ stop) := by
    simp only [body, write, List.append_assoc]
  have hsound := merge.sound_body
  rw [hbody] at hsound ⊢
  refine hasClause_of_unsaid (by simp) hsound ?_ (tokens_outputClause_eq _ _) says_stop (by simp)
  cases hqualifiers : merge.qualifiers <;>
    simp [sourceRow, write, matched, inserted, updated, hqualifiers, matchAtoms]

theorem hasClause_selectKeys (setting : Setting) (keys : List KeyColumn) (row : Nat) (isNumbered : Bool) :
    HasClause "SELECT" (keys.filterMap (·.selectTokens? row)) (if isNumbered then [numbered row] else [])
      ((Statement.selectKeys keys row isNumbered).sql setting).tokens := by
  refine ⟨[], _, tokens_selectKeys_eq setting keys row isNumbered, List.not_mem_nil, ?_, ?_⟩
  all_goals split <;> simp

end CrudSql

import CrudSql.Proofs.Token.Fixed
import CrudSql.Statement

/-! The fixed texts of inserts and merges. Whatever they name, and however many rows they have, they say
    only texts of one list, and an insert besides that it overrides the server's numbers. -/

namespace CrudSql
open Sql

section Clauses
variable {text : String}

/-- The fixed texts of inserts and merges, but for the override. -/
def writingTexts : List String :=
  [ -- inserts
   "INSERT", "INTO", "OUTPUT", "INSERTED.", "S.", "DEFAULT VALUES", "VALUES", "RETURNING", "AS", "ON CONFLICT",
   "DO NOTHING", "DO UPDATE SET", " = EXCLUDED.", "ON DUPLICATE KEY UPDATE", " = ", " = LAST_INSERT_ID(",
   -- merges
   "MERGE", "AS T USING", "AS S", "ON 1=0", "ON", "(T.", " = S.", " OR (T.", " IS NULL AND S.", " IS NULL))",
   "WHEN NOT MATCHED THEN INSERT", "WHEN MATCHED THEN UPDATE SET", "T.",
   -- between items
   "(", ")", ", ", ".", " AND "]

@[simp] theorem says_commaSeparated (items : List Sql) :
    Says (commaSeparated items) text ↔ ∃ item ∈ items, Says item text := by
  cases items with
  | nil => simp [commaSeparated]
  | cons item rest => simp [commaSeparated]

theorem not_says_outputClause (h : text ∉ writingTexts) (keys : List KeyColumn) (numbered : Bool) :
    ¬Says (outputClause keys numbered) text := by
  simp only [writingTexts, List.mem_cons, not_or] at h
  unfold outputClause
  cases numbered <;> split <;> simp [h]

theorem Conflict.not_says_sql (h : text ∉ writingTexts) (conflict : Conflict) : ¬Says conflict.sql text := by
  simp only [writingTexts, List.mem_cons, not_or] at h
  cases conflict with
  | fail => simp [sql]
  | onConflict qualifiers updates => simp [sql, h]
  | onDuplicateKey assignments =>
    have hassigned : ∀ assignment : Assignment, ¬Atom.Say assignment.atoms text := by
      intro assignment
      cases assignment <;> simp [Assignment.atoms, Sql.assignment, h]
    simp [sql, h, hassigned]

theorem Returned.not_says_sql (h : text ∉ writingTexts) (returned : Returned) : ¬Says returned.sql text := by
  simp only [writingTexts, List.mem_cons, not_or] at h
  obtain ⟨keys, row⟩ := returned
  cases row <;> simp [sql, h]

theorem Insert.says_sql {insert : Insert} (ht : insert.target.hints = none) (h : text ∉ writingTexts) :
    Says insert.sql text ↔ insert.overriding = true ∧ text = "OVERRIDING SYSTEM VALUE" := by
  have houtput := not_says_outputClause h insert.output false
  have hconflict := insert.conflict.not_says_sql h
  have hreturning := insert.returning.not_says_sql h
  simp only [writingTexts, List.mem_cons, not_or] at h
  cases hsource : insert.source <;>
    simp [sql, head, Target.sql, ht, hsource, houtput, hconflict, hreturning, h]

theorem Merge.not_says_sql {merge : Merge} (ht : merge.target.hints = none) (h : text ∉ writingTexts) :
    ¬Says merge.sql text := by
  have houtput := not_says_outputClause h merge.output merge.numbered
  simp only [writingTexts, List.mem_cons, not_or] at h
  cases hqualifiers : merge.qualifiers <;>
    simp [sql, sourceRow, matchAtoms, Target.sql, ht, hqualifiers, houtput, h]

end Clauses

/-! ### Reports -/

/-- The keywords of the clauses in which a statement reports keys stand in no other fixed texts. -/
theorem eq_of_report_mem_phrase : ∀ keyword ∈ ["OUTPUT", "RETURNING"], keyword.toList.all Char.isDigit = false ∧
    .word keyword ∈ phrase keyword ∧ ∀ text ∈ phrases, .word keyword ∈ phrase text → text = keyword := by
  decide +kernel

theorem not_mem_tokens_of_unsaid {keyword : String} (hk : keyword ∈ ["OUTPUT", "RETURNING"]) {sql : Sql}
    (hs : sql.Sound) (h : ¬sql.Says keyword) : .word keyword ∉ sql.tokens := by
  obtain ⟨hdigits, hphrase, honly⟩ := eq_of_report_mem_phrase keyword hk
  rwa [hs.word_mem_tokens_iff hdigits hphrase honly]

end CrudSql

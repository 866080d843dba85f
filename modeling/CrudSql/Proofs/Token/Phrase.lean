import CrudSql.Proofs.Token
import CrudSql.Setting

/-! The fixed texts of statements and the tokens in them: keywords, decimal numbers and punctuation, which
    read the same under the quotes of every engine. -/

namespace CrudSql

/-- The words that statements are made of. -/
def keywords : List String :=
  ["ALL", "AND", "ANY", "AS", "ASC", "AVG", "BEGIN", "BETWEEN", "BY", "CAST", "CATCH", "COALESCE",
   "CONFLICT", "COUNT", "COUNT_BIG", "CTE", "DEFAULT", "DELETE", "DESC", "DO", "DOUBLE", "DUPLICATE",
   "END", "EXCLUDED", "FETCH", "FLOAT", "FROM", "IDENTITY", "IDENTITY_INSERT", "IN", "INSERT",
   "INSERTED", "INTO", "IS", "KEY", "LAST_INSERT_ID", "LIKE", "LIMIT", "MATCHED", "MAX", "MERGE", "MIN",
   "NEXT", "NOT", "NOTHING", "NULL", "OFF", "OFFSET", "ON", "ONLY", "OR", "ORDER", "OUTPUT", "OVER",
   "OVERRIDING", "PRECISION", "Q", "RESTART", "RETURNING", "ROWS", "ROW_NUMBER", "S", "SELECT", "SET",
   "SUM", "SYSTEM", "T", "TABLE", "THEN", "TOP", "TRUNCATE", "TRY", "UPDATE", "USING", "VALUE", "VALUES",
   "WHEN", "WHERE", "WITH"]

/-- The marks that statements are made of. -/
def punctuation : List Char := ['(', ')', ',', ';', '.', '=', '<', '>', '*']

namespace Token

/-- A keyword, a decimal number or a punctuation mark. -/
def isFixed : Token → Bool
  | word text => keywords.contains text || text.toList.all Char.isDigit
  | mark c => punctuation.contains c
  | name _ | placeholder _ => false

/-- A token that a statement may have: a name between quotes, a parameter with a proper name, or one of
    the fixed tokens. -/
def IsKnown : Token → Prop
  | name _ => True
  | placeholder text => ∀ c ∈ text.toList, isParameterChar c = true
  | token => token.isFixed = true

/-- The name of a parameter. -/
def placeholder? : Token → Option String
  | placeholder text => some text
  | _ => none

end Token

/-- The characters of an engine by which names and parameters are told. -/
def Setting.marks (setting : Setting) : Marks :=
  ⟨setting.openingQuote, setting.closingQuote, setting.parameterMark⟩

/-- The fixed texts between names, parameters and numbers. -/
def phrases : List String :=
  [ -- reading
   "SELECT", "FROM", "WHERE", "AS", "ORDER BY", " ASC", " DESC", "TOP (", "LIMIT ", " OFFSET ", "OFFSET ",
   " ROWS FETCH NEXT ", " ROWS ONLY", "WITH CTE AS", "ROW_NUMBER() OVER", "CTE", "WHERE (", "COUNT(*)",
   "COUNT_BIG(1)", "1", "MAX(", "MIN(", "SUM(", "AVG(", "AVG(CAST(", " AS ", "FLOAT", "DOUBLE PRECISION",
   -- conditions
   " IS NULL", " IS NOT NULL", " = ", " <> ", " < ", " > ", " <= ", " >= ", " LIKE ", " NOT LIKE ",
   " BETWEEN ", " NOT BETWEEN ", " IN (", " NOT IN (", " IN (SELECT ", " NOT IN (SELECT ",
   " FROM (VALUES ", ") AS Q (", " = ANY(", " <> ALL(", "1 = 0", "1 = 1", " IS NULL)", " AND ", " OR ",
   "NOT ",
   -- writing
   "INSERT", "INTO", "VALUES", "DEFAULT VALUES", "OVERRIDING SYSTEM VALUE", "OUTPUT", "INSERTED.",
   "RETURNING", "UPDATE", "SET", "DELETE", "TRUNCATE TABLE", "RESTART IDENTITY", "MERGE", "AS T USING",
   "AS S", "ON", "OFF", "ON 1=0", "(T.", " = S.", " OR (T.", " IS NULL AND S.", " IS NULL))", "S.", "T.",
   "WHEN NOT MATCHED THEN INSERT", "WHEN MATCHED THEN UPDATE SET", "ON CONFLICT", "DO NOTHING",
   "DO UPDATE SET", " = EXCLUDED.", "ON DUPLICATE KEY UPDATE", " = LAST_INSERT_ID(", "LAST_INSERT_ID()",
   "COALESCE(", ", LAST_INSERT_ID())", "BEGIN TRY SET IDENTITY_INSERT", "END TRY BEGIN CATCH END CATCH",
   -- between items
   "(", ")", "))", ", ", "."]

/-- The tokens of a fixed text, which has no quotes. -/
def phrase (text : String) : List Token := (Setting.sqlServer.marks.read text.toList).getD []

/-- Whether a text has only fixed tokens, and no quote or mark of a parameter. -/
def isPhrase (text : String) : Bool :=
  (phrase text).all (·.isFixed) && text.toList.all (fun c => isParameterChar c || isSeparator c) &&
    Setting.sqlServer.marks.read text.toList == some (phrase text)

theorem isPhrase_of_mem : ∀ text ∈ phrases, isPhrase text = true := by
  decide +kernel

theorem isFixed_of_mem_phrase {text : String} (h : text ∈ phrases) : ∀ t ∈ phrase text, t.isFixed = true := by
  have hphrase := isPhrase_of_mem text h
  rw [isPhrase, Bool.and_eq_true, Bool.and_eq_true] at hphrase
  exact List.all_eq_true.mp hphrase.1.1

/-- A fixed text reads as its tokens. -/
theorem Marks.IsReadable.read_phrase {marks : Marks} (h : marks.IsReadable) {text : String}
    (ht : text ∈ phrases) : marks.read text.toList = some (phrase text) := by
  have hphrase := isPhrase_of_mem text ht
  simp only [isPhrase, Bool.and_eq_true, List.all_eq_true, Bool.or_eq_true, beq_iff_eq] at hphrase
  have hstandard : Setting.sqlServer.marks.IsStandard := ⟨by decide, rfl⟩
  exact (read_of_plain h hstandard.isReadable hphrase.1.2).trans hphrase.2

end CrudSql

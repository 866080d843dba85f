import CrudSql.Proofs.Ident

/-! The quoted forms of columns, read as columns. A column is quoted by doubling the closing quotes in its
    name, and reading takes one pair of quotes away and leaves what is between them as it is. So the quoted
    form is read as the same column where its name has no closing quote, and as another one where it has. -/

namespace CrudSql.Field
open Text

variable {setting : Setting} {text : String} {field : Field}

theorem name_of_named (h : named text = .ok field) :
    field = { name := field.name } ∧ field.name ≠ "" ∧ trimChars field.name.toList = field.name.toList := by
  simp only [named] at h
  split at h
  · cases h
  · rename_i hne
    obtain rfl := Except.ok.inj h
    exact ⟨rfl, hne, by rw [toList_trim, trimChars_trimChars]⟩

theorem named_of_trimmed {name : String} (hread : unquote (trim text) = name)
    (htrim : trimChars name.toList = name.toList) (hne : name ≠ "") : named text = .ok { name } := by
  have hname : trim name = name := by
    rw [trim, htrim, String.ofList_toList]
  simp only [named, hread, hname, if_neg hne]

/-- A name between its quotes, each closing quote in it written twice. -/
def doubledName (setting : Setting) (field : Field) : String :=
  String.ofList (doubled setting.closingQuote field.name.toList)

theorem doubledName_eq_name_iff :
    field.doubledName setting = field.name ↔ setting.closingQuote ∉ field.name.toList := by
  rw [← doubled_eq_self_iff, doubledName, ← String.toList_inj, String.toList_ofList]

/-- Doubling leaves the ends of a name as they are, so there is nothing to trim from it either. -/
theorem trimChars_doubledName (h : trimChars field.name.toList = field.name.toList) :
    trimChars (field.doubledName setting).toList = (field.doubledName setting).toList := by
  rw [doubledName, String.toList_ofList]
  refine trimChars_of_ends (fun c hc => ?_) fun c hc => ?_
  · rw [head?_doubled, ← h] at hc
    exact isBlank_of_head?_trimChars hc
  · rw [getLast?_doubled, ← h] at hc
    exact isBlank_of_getLast?_trimChars hc

/-- A doubled name is longer in any case, unless it is the name itself. -/
theorem sameName_doubledName_iff :
    sameName field.name (field.doubledName setting) = true ↔ setting.closingQuote ∉ field.name.toList := by
  rw [← doubledName_eq_name_iff]
  constructor
  · intro hsame
    by_contra hne
    have hsublist := sublist_doubled setting.closingQuote field.name.toList
    have hlt := length_lowerEach_lt hsublist fun heq => hne (by rw [doubledName, ← heq, String.ofList_toList])
    rw [sameName, beq_iff_eq, doubledName, String.toList_ofList] at hsame
    rw [hsame] at hlt
    exact Nat.lt_irrefl _ hlt
  · intro heq
    rw [heq, sameName_refl]

section Quoted
variable (hq : (setting.openingQuote, setting.closingQuote) ∈ quotePairs)

include hq

/-- Of a quoted column, the quotes are taken away and nothing else. -/
theorem unquote_trim_quoted (field : Field) : unquote (trim (field.quoted setting)) = field.doubledName setting := by
  obtain ⟨hclose, hopening, hclosing, -⟩ := Ident.known_quotes hq
  have hchars : (field.quoted setting).toList =
      setting.openingQuote :: (doubled setting.closingQuote field.name.toList ++ [setting.closingQuote]) := by
    rw [quoted, String.toList_ofList, quoteChars]
  have htrim : trimChars (field.quoted setting).toList = (field.quoted setting).toList := by
    rw [hchars]
    refine trimChars_of_ends (fun c hc => ?_) fun c hc => ?_
    · cases hc
      exact hopening
    · rw [← List.cons_append, List.getLast?_concat] at hc
      cases hc
      exact hclosing
  rw [unquote, toList_trim, htrim, hchars, unquoteChars, hclose]
  dsimp only
  rw [List.getLast?_concat, if_pos rfl, List.dropLast_concat]
  rfl

/-- The quoted form of a column that a text names is read again, with the closing quotes in the name still
    doubled. It is the same column, and the column is found by it, exactly if there are none. -/
theorem named_quoted (h : named text = .ok field) :
    named (field.quoted setting) = .ok { name := field.doubledName setting } ∧
      (named (field.quoted setting) = .ok field ↔ setting.closingQuote ∉ field.name.toList) ∧
      (field.hasName (field.quoted setting) = true ↔ setting.closingQuote ∉ field.name.toList) := by
  obtain ⟨hfield, hne, htrim⟩ := name_of_named h
  have hread := unquote_trim_quoted hq field
  have hdoubled : field.doubledName setting ≠ "" := by
    intro hempty
    have hsublist := sublist_doubled setting.closingQuote field.name.toList
    rw [String.ofList_eq_empty_iff.mp hempty, List.sublist_nil] at hsublist
    exact hne (String.toList_injective hsublist)
  have hnamed := named_of_trimmed hread (trimChars_doubledName htrim) hdoubled
  refine ⟨hnamed, ?_, ?_⟩
  · rw [hnamed, Except.ok.injEq, ← doubledName_eq_name_iff]
    constructor
    · intro heq
      exact congrArg Field.name heq
    · intro heq
      rw [heq]
      exact hfield.symm
  · rw [hasName, hread, sameName_doubledName_iff]

end Quoted

/-- A bracket that opens is not doubled between brackets, and neither are the quotes of other engines. -/
theorem named_quoted_brackets :
    let field : Field := { name := "a[`b" }
    (Setting.sqlServer.openingQuote, Setting.sqlServer.closingQuote) ∈ quotePairs ∧
      named " \"a[`b\" " = .ok field ∧ field.quoted .sqlServer = "[a[`b]" ∧ named "[a[`b]" = .ok field := by
  intro field
  have hgiven : named " \"a[`b\" " = .ok field := by
    with_unfolding_all decide
  have hquoted : field.quoted .sqlServer = "[a[`b]" := by
    decide
  have hq := Ident.known_quotes_of_dialect .sqlServer
  obtain ⟨-, hsame, -⟩ := named_quoted hq hgiven
  have hread : named (field.quoted .sqlServer) = .ok field := hsame.mpr (by decide)
  rw [hquoted] at hread
  exact ⟨hq, hgiven, hquoted, hread⟩

/-- A column with a closing bracket is another one when it is read from between the brackets of its engine;
    as an identifier it stays the same. -/
theorem quoted_bracket_renamed :
    named "a]b" = .ok { name := "a]b" } ∧ ({ name := "a]b" } : Field).quoted .sqlServer = "[a]]b]" ∧
      named "[a]]b]" = .ok { name := "a]]b" } ∧ Ident.parse "[a]]b]" = .ok ⟨["a]b"]⟩ := by
  with_unfolding_all decide

end CrudSql.Field

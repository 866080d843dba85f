import CrudSql.Engine
import CrudSql.Ident
import CrudSql.Proofs.Field
import CrudSql.Proofs.Outcome
import CrudSql.Proofs.Quote
import CrudSql.Proofs.Text.Separated

/-! Identifiers and their quoted forms. Every identifier that is read has parts, none of them blank or with
    a character that no identifier may have; between the quotes of any engine such an identifier is read
    as itself. -/

namespace CrudSql
open Text

/-- No part has the character. -/
def Ident.Lacks (ident : Ident) (c : Char) : Prop := ∀ part ∈ ident.parts, c ∉ part.toList

instance (ident : Ident) (c : Char) : Decidable (ident.Lacks c) :=
  inferInstanceAs (Decidable (∀ part ∈ ident.parts, c ∉ part.toList))

/-- An identifier that a text may name. -/
structure Ident.IsProper (ident : Ident) : Prop where
  parts_ne_nil : ident.parts ≠ []
  part_ne_empty : ∀ part ∈ ident.parts, part.toList ≠ []
  lacksNul : ident.Lacks (Char.ofNat 0)

section Trim
variable {cs : List Char}

theorem dropWhile_isBlank_of_head (h : ∀ c ∈ cs.head?, isBlank c = false) : cs.dropWhile isBlank = cs := by
  cases cs with
  | nil => rfl
  | cons c cs => rw [List.dropWhile_cons_of_neg (by simpa using h)]

/-- Nothing is trimmed from a text without white space at its ends. -/
theorem trimChars_of_ends (hfirst : ∀ c ∈ cs.head?, isBlank c = false)
    (hlast : ∀ c ∈ cs.getLast?, isBlank c = false) : trimChars cs = cs := by
  rw [trimChars, dropWhile_isBlank_of_head hfirst, dropWhile_isBlank_of_head (by simpa using hlast),
    List.reverse_reverse]

theorem isBlank_of_head?_dropWhile {c : Char} (h : c ∈ (cs.dropWhile isBlank).head?) : isBlank c = false := by
  have hnot := List.head?_dropWhile_not isBlank cs
  rw [Option.mem_def.mp h] at hnot
  simpa using hnot

/-! What is trimmed has no white space at its ends. -/

theorem isBlank_of_head?_trimChars {c : Char} (h : c ∈ (trimChars cs).head?) : isBlank c = false := by
  -- What is dropped at the end leaves the start as it is.
  have hprefix : trimChars cs <+: cs.dropWhile isBlank := by
    rw [trimChars, ← List.reverse_suffix, List.reverse_reverse]
    exact List.dropWhile_suffix _
  obtain ⟨dropped, hdropped⟩ := hprefix
  have hhead : c ∈ (cs.dropWhile isBlank).head? := by
    rw [← hdropped, Option.mem_def, List.head?_append, Option.mem_def.mp h]
    rfl
  exact isBlank_of_head?_dropWhile hhead

theorem isBlank_of_getLast?_trimChars {c : Char} (h : c ∈ (trimChars cs).getLast?) : isBlank c = false := by
  rw [trimChars, List.getLast?_reverse] at h
  exact isBlank_of_head?_dropWhile h

theorem trimChars_trimChars (cs : List Char) : trimChars (trimChars cs) = trimChars cs :=
  trimChars_of_ends (fun _ => isBlank_of_head?_trimChars) fun _ => isBlank_of_getLast?_trimChars

end Trim

namespace Ident
variable {setting : Setting} {ident : Ident} {text whole : String} {cs name part after rest : List Char}
  {parts : List (List Char)}

/-! ### What reading gives -/

theorem content_eq_ok_iff :
    content text = .ok cs ↔ cs = trimChars text.toList ∧ cs ≠ [] ∧ Char.ofNat 0 ∉ cs := by
  simp only [content]
  split
  · simp_all
  · split
    · rename_i h
      simp only [reduceCtorEq, false_iff]
      rintro ⟨rfl, -, hnul⟩
      exact hnul h
    · simp only [Except.ok.injEq]
      constructor
      · rintro rfl
        exact ⟨rfl, ‹_›, ‹_›⟩
      · exact fun h => h.1.symm

theorem barePart_spec (h : barePart whole cs = .ok (part, after)) : part ≠ [] ∧ part ⊆ cs ∧ after ⊆ cs := by
  simp only [barePart] at h
  split at h
  · cases h
  · split at h
    · cases h
    · cases h
      exact ⟨‹_›, ((trimChars_sublist _).trans (List.takeWhile_sublist _)).subset,
        List.dropWhile_subset _⟩

/-- A part is not empty, and nothing is added to the text on the way. -/
theorem firstPart_spec (h : firstPart whole cs = .ok (part, after)) : part ≠ [] ∧ part ⊆ cs ∧ after ⊆ cs := by
  unfold firstPart at h
  split at h
  · exact barePart_spec h
  · split at h
    · exact barePart_spec h
    · split at h
      · cases h
      · cases h
      · rename_i hempty hread
        cases h
        obtain ⟨hpart, hafter⟩ := subset_of_quotedName? hread
        refine ⟨?_, List.subset_cons_of_subset _ hpart, List.subset_cons_of_subset _ hafter⟩
        rintro rfl
        exact hempty rfl

theorem readParts_spec (h : readParts whole cs = .ok parts) :
    parts ≠ [] ∧ ∀ part ∈ parts, part ≠ [] ∧ part ⊆ cs := by
  have hskip : ∀ cs : List Char, cs.dropWhile isBlank ⊆ cs := fun cs => List.dropWhile_subset _
  fun_induction readParts whole cs generalizing parts with
  | case1 | case3 | case4 | case5 => cases h
  | case2 cs part after hfirst =>
    cases h
    obtain ⟨hne, hsubset, -⟩ := firstPart_spec hfirst
    exact ⟨List.cons_ne_nil _ _, List.forall_mem_singleton.mpr ⟨hne, List.Subset.trans hsubset (hskip cs)⟩⟩
  | case6 cs part after hfirst c rest hfollowing _ _ parts _ ih =>
    cases h
    obtain ⟨hne, hsubset, hafter⟩ := firstPart_spec hfirst
    have hrest : rest ⊆ cs := fun d hd => by
      have hd : d ∈ after.dropWhile isBlank := hfollowing ▸ List.mem_cons_of_mem c hd
      exact hskip cs (hafter (hskip after hd))
    refine ⟨List.cons_ne_nil _ _, List.forall_mem_cons.mpr ⟨⟨hne, List.Subset.trans hsubset (hskip cs)⟩, ?_⟩⟩
    exact fun part hpart => ⟨((ih ‹_›).2 part hpart).1, List.Subset.trans ((ih ‹_›).2 part hpart).2 hrest⟩

theorem isProper_of_parse (h : parse text = .ok ident) : ident.IsProper := by
  simp only [parse, bind_eq_ok, pure_eq_ok] at h
  obtain ⟨cs, hcs, parts, hparts, rfl⟩ := h
  obtain ⟨hne, hpart⟩ := readParts_spec hparts
  obtain ⟨-, -, hnul⟩ := content_eq_ok_iff.mp hcs
  refine ⟨by simpa using hne, ?_, ?_⟩
  all_goals
    intro part hmem
    obtain ⟨chars, hchars, rfl⟩ := List.mem_map.mp hmem
    rw [String.toList_ofList]
  · exact (hpart chars hchars).1
  · exact fun h => hnul ((hpart chars hchars).2 h)

theorem isProper_of_single (h : single text = .ok ident) : ident.IsProper := by
  simp only [single, throw_bind, bind_eq_ok, ite_throw_eq_ok, pure_eq_ok] at h
  obtain ⟨cs, hcs, hne, rfl⟩ := h
  obtain ⟨-, -, hnul⟩ := content_eq_ok_iff.mp hcs
  refine ⟨List.cons_ne_nil _ _, List.forall_mem_singleton.mpr ?_, List.forall_mem_singleton.mpr ?_⟩
  · rwa [String.toList_ofList]
  · rw [String.toList_ofList]
    exact fun h => hnul (((trimChars_sublist _).trans (unquoteChars_sublist cs)).subset h)

/-! ### Quoted forms -/

section Steps
variable {rest : List Char} (hfirst : firstPart whole (cs.dropWhile isBlank) = .ok (part, after))

include hfirst

/-- The last part has nothing behind it. -/
theorem readParts_last (hafter : after.dropWhile isBlank = []) : readParts whole cs = .ok [part] := by
  rw [readParts]
  split
  · simp_all
  · rename_i heq
    cases hfirst.symm.trans heq
    split <;> simp_all

/-- Behind another part a dot goes, and more. -/
theorem readParts_dot (hafter : after.dropWhile isBlank = '.' :: rest) (hrest : rest ≠ []) :
    readParts whole cs = (readParts whole rest).map (part :: ·) := by
  rw [readParts]
  split
  · simp_all
  · rename_i heq
    cases hfirst.symm.trans heq
    split
    · simp_all
    · rename_i heq
      cases hafter.symm.trans heq
      rw [if_neg (by simp), if_neg hrest]
      cases readParts whole rest <;> rfl

end Steps

/-- The known quotes are told apart from white space, from dots and from what no identifier may have. -/
theorem known_quotes {opening close : Char} (h : (opening, close) ∈ quotePairs) :
    closingQuote? opening = some close ∧ isBlank opening = false ∧ isBlank close = false ∧ close ≠ '.' ∧
      opening ≠ Char.ofNat 0 ∧ close ≠ Char.ofNat 0 := by
  have hall : ∀ pair ∈ quotePairs, closingQuote? pair.1 = some pair.2 ∧ isBlank pair.1 = false ∧
      isBlank pair.2 = false ∧ pair.2 ≠ '.' ∧ pair.1 ≠ Char.ofNat 0 ∧ pair.2 ≠ Char.ofNat 0 := by
    decide
  exact hall _ h

/-- Every dialect has quotes that are known. -/
theorem known_quotes_of_dialect (dialect : Dialect) :
    (dialect.setting.openingQuote, dialect.setting.closingQuote) ∈ quotePairs := by
  cases dialect <;> decide

section Quoted
variable {opening close : Char} (hq : (opening, close) ∈ quotePairs)

include hq

theorem firstPart_quoteChars (hpart : part ≠ []) (hrest : rest.head? ≠ some close) :
    firstPart whole ((quoteChars opening close part ++ rest).dropWhile isBlank) = .ok (part, rest) := by
  obtain ⟨hclose, hopening, -⟩ := known_quotes hq
  have hread : quotedName? close (doubled close part ++ close :: rest) = some (part, rest) :=
    quotedName?_doubled hrest
  obtain ⟨c, part, rfl⟩ := List.exists_cons_of_ne_nil hpart
  rw [dropWhile_isBlank_of_head (by simp [quoteChars, hopening])]
  simp only [quoteChars, List.cons_append, List.append_assoc, List.nil_append, firstPart, hclose, hread]

/-- Quoted parts with dots between them are read one by one. -/
theorem readParts_quoted (hparts : parts ≠ []) (hne : ∀ part ∈ parts, part ≠ []) :
    readParts whole (['.'].intercalate (parts.map (quoteChars opening close))) = .ok parts := by
  have hdot : close ≠ '.' := (known_quotes hq).2.2.2.1
  induction parts with
  | nil => exact absurd rfl hparts
  | cons part parts ih =>
    obtain ⟨hpart, hne⟩ := List.forall_mem_cons.mp hne
    cases parts with
    | nil =>
      have hfirst : firstPart whole ((quoteChars opening close part ++ []).dropWhile isBlank) = .ok (part, []) :=
        firstPart_quoteChars hq hpart (by simp)
      rw [List.append_nil] at hfirst
      rw [List.map_singleton, List.intercalate_singleton]
      exact readParts_last hfirst rfl
    | cons next parts =>
      obtain ⟨rest, hrest⟩ : ∃ rest, rest = ['.'].intercalate ((next :: parts).map (quoteChars opening close)) :=
        ⟨_, rfl⟩
      have hsplit : ['.'].intercalate ((part :: next :: parts).map (quoteChars opening close)) =
          quoteChars opening close part ++ '.' :: rest := by
        simp [hrest, List.intercalate_cons_cons]
      have hfirst : firstPart whole ((quoteChars opening close part ++ '.' :: rest).dropWhile isBlank) =
          .ok (part, '.' :: rest) := firstPart_quoteChars hq hpart (by simpa using hdot.symm)
      have hmore : rest ≠ [] := by
        simp [hrest, quoteChars]
      rw [hsplit, readParts_dot hfirst rfl hmore, hrest, ih (List.cons_ne_nil _ _) hne]
      rfl

end Quoted

section Quoted
variable (hq : (setting.openingQuote, setting.closingQuote) ∈ quotePairs)

include hq

theorem content_quoted (h : ident.IsProper) : content (ident.quoted setting) = .ok (ident.quotedChars setting) := by
  obtain ⟨-, hopening, hclosing, -, hnulOpening, hnulClosing⟩ := known_quotes hq
  have hne : ident.parts.map (fun part => quoteChars setting.openingQuote setting.closingQuote part.toList) ≠ [] :=
    mt List.map_eq_nil_iff.mp h.parts_ne_nil
  have hhead : (ident.quotedChars setting).head? = some setting.openingQuote :=
    head?_intercalate hne (by simp [quoteChars])
  have hlast : (ident.quotedChars setting).getLast? = some setting.closingQuote :=
    getLast?_intercalate hne (by simp [quoteChars, List.getLast?_cons])
  refine content_eq_ok_iff.mpr ⟨?_, ?_, fun hnul => ?_⟩
  · rw [quoted, String.toList_ofList, trimChars_of_ends]
    · simpa [hhead] using hopening
    · simpa [hlast] using hclosing
  · intro hnil
    simp [hnil] at hhead
  · obtain hdot | ⟨item, hitem, hnul⟩ := mem_intercalate hnul
    · revert hdot
      decide
    · obtain ⟨part, hpart, rfl⟩ := List.mem_map.mp hitem
      simp only [quoteChars, List.mem_cons, List.mem_append, mem_doubled, List.not_mem_nil, or_false] at hnul
      obtain hnul | hnul | hnul := hnul
      · exact hnulOpening hnul.symm
      · exact h.lacksNul part hpart hnul
      · exact hnulClosing hnul.symm

/-- The quoted form of a proper identifier names it. -/
theorem parse_of_isProper (h : ident.IsProper) : parse (ident.quoted setting) = .ok ident := by
  have hparts : readParts (String.ofList (ident.quotedChars setting)) (ident.quotedChars setting) =
      .ok (ident.parts.map String.toList) := by
    have hchars : ident.quotedChars setting = ['.'].intercalate ((ident.parts.map String.toList).map
        (quoteChars setting.openingQuote setting.closingQuote)) := by
      rw [quotedChars, List.map_map]
      rfl
    rw [hchars]
    exact readParts_quoted hq (by simpa using h.parts_ne_nil)
      (by simpa using h.part_ne_empty)
  simp only [parse, content_quoted hq h, bind_eq_ok, pure_eq_ok]
  refine ⟨_, rfl, _, hparts, ?_⟩
  simp

/-- Every identifier that a text names is named by its quoted form too, in the quotes of any engine; so it
    goes from one engine's quotes into another's and stays the same. -/
theorem parse_quoted (h : parse text = .ok ident ∨ single text = .ok ident) (other : Setting) :
    parse (ident.quoted setting) = .ok ident ∧
      (parse (ident.quoted setting)).map (·.quoted other) = .ok (ident.quoted other) := by
  have hproper : ident.IsProper := h.elim isProper_of_parse isProper_of_single
  have hparse := parse_of_isProper hq hproper
  exact ⟨hparse, by rw [hparse]; rfl⟩

end Quoted

/-- Between brackets a closing bracket is doubled, and between backticks a backtick. -/
theorem parse_quoted_brackets :
    let ident : Ident := ⟨["dbo", "a]`.b"]⟩
    (∀ dialect : Dialect, (dialect.setting.openingQuote, dialect.setting.closingQuote) ∈ quotePairs) ∧
      parse "dbo . \"a]`.b\"" = .ok ident ∧ ident.quoted .sqlServer = "[dbo].[a]]`.b]" ∧
      parse "[dbo].[a]]`.b]" = .ok ident ∧
      (parse "[dbo].[a]]`.b]").map (·.quoted .mySql) = .ok "`dbo`.`a]``.b`" := by
  intro ident
  have hgiven : parse "dbo . \"a]`.b\"" = .ok ident := by
    with_unfolding_all decide
  have hquoted : ident.quoted .sqlServer = "[dbo].[a]]`.b]" := by
    decide
  obtain ⟨hparse, hagain⟩ : parse (ident.quoted .sqlServer) = .ok ident ∧
      (parse (ident.quoted .sqlServer)).map (·.quoted .mySql) = .ok (ident.quoted .mySql) :=
    parse_quoted (known_quotes_of_dialect .sqlServer) (.inl hgiven) .mySql
  rw [hquoted] at hparse hagain
  exact ⟨known_quotes_of_dialect, hgiven, hquoted, hparse, hagain⟩

end Ident

end CrudSql

import CrudSql.Proofs.Token.Sql

/-! The fixed texts of clauses. A keyword is read only where a piece says a fixed text with the keyword in
    it: no name and no parameter is one, whatever its characters. -/

namespace CrudSql

namespace Atom
variable {text : String} {a b atoms : List Atom}

/-- The fixed text that an atom is, if it is one. -/
def text? : Atom → Option String
  | fixed text | verbatim text => some text
  | _ => none

/-- Whether one of the atoms is the fixed text. -/
def Say (atoms : List Atom) (text : String) : Prop := ∃ atom ∈ atoms, atom.text? = some text

@[simp] theorem say_nil : ¬Say [] text := by
  rintro ⟨atom, ⟨⟩, -⟩

theorem say_cons {atom : Atom} : Say (atom :: atoms) text ↔ atom.text? = some text ∨ Say atoms text := by
  simp [Say]

@[simp] theorem say_fixed (written : String) :
    Say (fixed written :: atoms) text ↔ text = written ∨ Say atoms text := by
  rw [say_cons, text?, Option.some.injEq, eq_comm]

@[simp] theorem say_number (value : Int) : Say (number value :: atoms) text ↔ Say atoms text := by
  simp [say_cons, text?]

@[simp] theorem say_name (name' : String) : Say (name name' :: atoms) text ↔ Say atoms text := by
  simp [say_cons, text?]

@[simp] theorem say_placeholder (parameter : String) :
    Say (placeholder parameter :: atoms) text ↔ Say atoms text := by
  simp [say_cons, text?]

@[simp] theorem say_append : Say (a ++ b) text ↔ Say a text ∨ Say b text := by
  simp [Say, or_and_right, exists_or]

@[simp] theorem say_separated (separator : String) (items : List (List Atom)) :
    Say (separated separator items) text ↔
      (1 < items.length ∧ text = separator) ∨ ∃ item ∈ items, Say item text := by
  induction items with
  | nil => simp [separated]
  | cons item items ih =>
    cases items with
    | nil => simp [separated]
    | cons next items =>
      have hlength : 1 < items.length + 1 + 1 := by omega
      rw [separated_cons, say_append, say_fixed, ih]
      simp only [List.length_cons, List.exists_mem_cons_iff]
      tauto

end Atom

namespace Sql
variable {a b sql : Sql} {text : String}

/-- Whether a piece has the fixed text. -/
def Says (sql : Sql) (text : String) : Prop := ∃ atoms, .token atoms ∈ sql ∧ Atom.Say atoms text

@[simp] theorem says_nil : ¬Says [] text := by
  rintro ⟨atoms, ⟨⟩, -⟩

@[simp] theorem says_append : Says (a ++ b) text ↔ Says a text ∨ Says b text := by
  simp [Says, or_and_right, exists_or]

@[simp] theorem says_token (atoms : List Atom) (rest : Sql) :
    Says (.token atoms :: rest) text ↔ Atom.Say atoms text ∨ Says rest text := by
  simp [Says, or_and_right, exists_or]

@[simp] theorem says_mark (c : Char) (rest : Sql) : Says (.mark c :: rest) text ↔ Says rest text := by
  simp [Says]

@[simp] theorem says_ite {p : Prop} [Decidable p] :
    Says (if p then a else b) text ↔ if p then Says a text else Says b text := by
  split <;> rfl

@[simp] theorem says_flatMap {α : Type} (f : α → Sql) (l : List α) :
    Says (l.flatMap f) text ↔ ∃ x ∈ l, Says (f x) text := by
  simp only [Says, List.mem_flatMap]
  constructor
  · rintro ⟨atoms, ⟨x, hx, hatoms⟩, hsay⟩
    exact ⟨x, hx, atoms, hatoms, hsay⟩
  · rintro ⟨x, hx, atoms, hatoms, hsay⟩
    exact ⟨atoms, ⟨x, hx, hatoms⟩, hsay⟩

@[simp] theorem says_word (written : String) : Says (word written) text ↔ text = written := by
  simp [word]

@[simp] theorem says_comma : ¬Says comma text := by
  simp [comma]

@[simp] theorem says_stop : ¬Says stop text := by
  simp [stop]

@[simp] theorem says_quoted (name : String) : ¬Says (quoted name) text := by
  simp [quoted]

@[simp] theorem says_named (label : String) : Says (named label) text ↔ text = "AS" := by
  simp [named]

@[simp] theorem says_parenthesized : Says (parenthesized sql) text ↔ text = "(" ∨ Says sql text := by
  simp [parenthesized]

@[simp] theorem says_path (ident : Ident) : Says (path ident) text ↔ 1 < ident.parts.length ∧ text = "." := by
  simp [path]

@[simp] theorem says_hints_none : ¬Says (hints none) text := says_nil

@[simp] theorem says_list (items : List (List Atom)) :
    Says (list items) text ↔ (1 < items.length ∧ text = ", ") ∨ ∃ item ∈ items, Atom.Say item text := by
  simp [list, Atom.listed]

@[simp] theorem says_columns (fields : List Field) :
    Says (columns fields) text ↔ 1 < fields.length ∧ text = ", " := by
  simp [columns]

@[simp] theorem says_aliasedColumns (label : String) (fields : List Field) :
    Says (aliasedColumns label fields) text ↔
      (1 < fields.length ∧ text = ", ") ∨ (∃ field, field ∈ fields) ∧ text = label ++ "." := by
  simp [aliasedColumns]

@[simp] theorem says_parameters (fields : List Field) (row : Nat) :
    Says (parameters fields row) text ↔ 1 < fields.length ∧ text = ", " := by
  simp [parameters]

/-! ### Tokens -/

theorem Says.infix (h : sql.Says text) : phrase text <:+: sql.tokens := by
  obtain ⟨atoms, hatoms, atom, hatom, htext⟩ := h
  have htokens : atom.tokens = phrase text := by
    cases atom <;> cases htext <;> rfl
  obtain ⟨before, after, rfl⟩ := List.append_of_mem hatoms
  obtain ⟨first, last, rfl⟩ := List.append_of_mem hatom
  refine ⟨tokens before ++ first.flatMap (·.tokens), last.flatMap (·.tokens) ++ tokens after, ?_⟩
  rw [← htokens]
  simp [tokens, Piece.tokens]

/-- Numbers apart, a word that is read is in a fixed text of the pieces. -/
theorem Sound.says_of_word (hs : sql.Sound) {keyword : String} (hk : keyword.toList.all Char.isDigit = false)
    (h : .word keyword ∈ sql.tokens) : ∃ text ∈ phrases, sql.Says text ∧ .word keyword ∈ phrase text := by
  obtain ⟨piece, hpiece, h⟩ := List.mem_flatMap.mp h
  cases piece with
  | mark c => simp [Piece.tokens] at h
  | token atoms =>
    obtain ⟨atom, hatom, h⟩ := List.mem_flatMap.mp h
    have hsound := (hs _ hpiece).1 atom hatom
    cases atom with
    | fixed text | verbatim text => exact ⟨text, hsound, ⟨atoms, hpiece, _, hatom, rfl⟩, h⟩
    | number value =>
      cases List.mem_singleton.mp h
      rw [List.all_eq_true.mpr (toList_toString_digits hsound).2] at hk
      cases hk
    | name | ownName | placeholder => simp [Atom.tokens] at h

/-- A keyword that only one fixed text has is read exactly where that text is said. -/
theorem Sound.word_mem_tokens_iff (hs : sql.Sound) {keyword : String}
    (hk : keyword.toList.all Char.isDigit = false) (hin : .word keyword ∈ phrase text)
    (honly : ∀ other ∈ phrases, .word keyword ∈ phrase other → other = text) :
    .word keyword ∈ sql.tokens ↔ sql.Says text := by
  constructor
  · intro h
    obtain ⟨other, hother, hsays, hword⟩ := hs.says_of_word hk h
    rwa [honly other hother hword] at hsays
  · exact fun h => h.infix.subset hin

end Sql

end CrudSql

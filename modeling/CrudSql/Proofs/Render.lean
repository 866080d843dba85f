import Mathlib.Data.List.Basic
import CrudSql.Proofs.Statement

/-! The text of statements part by part. What a piece adds to a text depends on the text only in whether a
    space goes between; so a token can be changed with everything around it kept, and statements stand one
    behind the other with spaces between. -/

namespace CrudSql

namespace Piece
variable {setting : Setting} {text a b : List Char} {atom : Atom} {atoms : List Atom}

theorem gap_append (h : a ≠ []) : gap (a ++ b) = gap a := by
  obtain ⟨c, a, rfl⟩ := List.exists_cons_of_ne_nil h
  rfl

theorem after_blank (h : atoms.flatMap (·.chars setting) = []) : after setting text (token atoms) = text := by
  rw [after, h]

theorem after_token (h : atoms.flatMap (·.chars setting) ≠ []) : after setting text (token atoms) =
    (atoms.flatMap (·.chars setting)).reverse ++ (gap text ++ text) := by
  rw [after]
  split
  · exact absurd ‹_› h
  · rfl

/-! A space goes behind a token if one goes behind its last atom, as behind a number or a name. -/

theorem ne_nil_of_gap (h : gap text = [' ']) : text ≠ [] := by
  rintro rfl
  cases h

theorem gap_concat (atoms : List Atom) (h : gap (atom.chars setting).reverse = [' ']) :
    gap ((atoms ++ [atom]).flatMap (·.chars setting)).reverse = [' '] := by
  rw [List.flatMap_append, List.flatMap_singleton, List.reverse_append, gap_append (ne_nil_of_gap h), h]

theorem gap_number {n : Int} (h : 0 ≤ n) : gap ((Atom.number n).chars setting).reverse = [' '] := by
  obtain ⟨hne, hdigits⟩ := toList_toString_digits h
  rw [Atom.chars]
  cases hlast : (toString n).toList.reverse with
  | nil => exact absurd (List.reverse_eq_nil_iff.mp hlast) hne
  | cons last init =>
    have hdigit : last.isDigit = true := by
      refine hdigits last (List.mem_reverse.mp ?_)
      rw [hlast]
      exact List.mem_cons_self
    have hopen : ¬(last = '(' ∨ last = ' ') := by
      rintro (rfl | rfl) <;> cases hdigit
    simp [gap, hopen]

theorem gap_name (h : setting.marks.IsReadable) (text : String) :
    gap ((Atom.name text).chars setting).reverse = [' '] := by
  have hclose : setting.closingQuote ∈ quotePairs.map (·.2) := List.mem_map_of_mem (f := (·.2)) h.quotes
  have hopen : ¬(setting.closingQuote = '(' ∨ setting.closingQuote = ' ') := by
    rintro (hclose' | hclose') <;> rw [hclose'] at hclose <;> revert hclose <;> decide
  simp [Atom.chars, quoteChars, gap, hopen]

end Piece

namespace Sql
open Piece
variable {setting : Setting} {text : List Char} {a b : Sql}

theorem onto_cons (piece : Piece) (sql : Sql) :
    onto setting text (piece :: sql) = onto setting (piece.after setting text) sql := rfl

theorem onto_word {written : String} (h : written.toList ≠ []) (text : List Char) :
    onto setting text (word written) = written.toList.reverse ++ (gap text ++ text) := by
  have hchars : ([.fixed written] : List Atom).flatMap (·.chars setting) = written.toList :=
    List.flatMap_singleton ..
  have hafter : Piece.after setting text (.token [.fixed written]) = _ := after_token (hchars.symm ▸ h)
  rwa [hchars] at hafter

/-- Pieces add the same to all texts that they follow in the same way. -/
theorem exists_onto (setting : Setting) (sql : Sql) (space : List Char) :
    ∃ more, ∀ text, gap text = space → onto setting text sql = more ++ text := by
  induction sql generalizing space with
  | nil => exact ⟨[], fun text _ => rfl⟩
  | cons piece sql ih =>
    cases piece with
    | mark c =>
      obtain ⟨more, hmore⟩ := ih (gap [c])
      refine ⟨more ++ [c], fun text _ => ?_⟩
      rw [onto_cons, Piece.after, hmore (c :: text) rfl, List.append_assoc]
      rfl
    | token atoms =>
      by_cases hblank : atoms.flatMap (·.chars setting) = []
      · obtain ⟨more, hmore⟩ := ih space
        refine ⟨more, fun text hgap => ?_⟩
        rw [onto_cons, after_blank hblank, hmore text hgap]
      · -- Behind the token only its own last character counts.
        obtain ⟨more, hmore⟩ := ih (gap (atoms.flatMap (·.chars setting)).reverse)
        refine ⟨more ++ (atoms.flatMap (·.chars setting)).reverse ++ space, fun text hgap => ?_⟩
        have hlast : (atoms.flatMap (·.chars setting)).reverse ≠ [] := by
          rwa [ne_eq, List.reverse_eq_nil_iff]
        rw [onto_cons, after_token hblank, hgap, hmore _ (gap_append hlast)]
        simp only [List.append_assoc]

theorem exists_render_append (setting : Setting) (a b : Sql) :
    ∃ rest, render setting (a ++ b) = render setting a ++ rest := by
  obtain ⟨more, hmore⟩ := exists_onto setting b (Piece.gap (a.onto setting []))
  refine ⟨String.ofList more.reverse, ?_⟩
  apply String.toList_injective
  simp [render, chars, onto_append, hmore]

/-- Around a token stands the same, whatever the token is, as long as a space may follow it. -/
theorem exists_render_around (setting : Setting) (a b : Sql) : ∃ front back : String,
    ∀ atoms : List Atom, gap (atoms.flatMap (·.chars setting)).reverse = [' '] →
      render setting (a ++ .token atoms :: b) =
        front ++ String.ofList (atoms.flatMap (·.chars setting)) ++ back := by
  obtain ⟨more, hmore⟩ := exists_onto setting b [' ']
  refine ⟨String.ofList (gap (a.onto setting []) ++ a.onto setting []).reverse, String.ofList more.reverse,
    fun atoms hgap => ?_⟩
  have hlast : (atoms.flatMap (·.chars setting)).reverse ≠ [] := ne_nil_of_gap hgap
  have hafter : Piece.after setting (a.onto setting []) (.token atoms) =
      (atoms.flatMap (·.chars setting)).reverse ++ (gap (a.onto setting []) ++ a.onto setting []) :=
    after_token (by rwa [ne_eq, List.reverse_eq_nil_iff] at hlast)
  have hchars : (a ++ .token atoms :: b).onto setting [] =
      more ++ ((atoms.flatMap (·.chars setting)).reverse ++ (gap (a.onto setting []) ++ a.onto setting [])) := by
    rw [onto_append, onto_cons, hafter, hmore _ ((gap_append hlast).trans hgap)]
  apply String.toList_injective
  simp [render, chars, hchars]

/-! ### Identifiers -/

/-- The atoms of an identifier with these parts. -/
def pathAtoms (parts : List String) : List Atom := Atom.separated "." (parts.map fun part => [.name part])

theorem pathAtoms_cons (part next : String) (parts : List String) :
    pathAtoms (part :: next :: parts) = .name part :: .fixed "." :: pathAtoms (next :: parts) :=
  Atom.separated_cons

theorem chars_pathAtoms (ident : Ident) :
    (pathAtoms ident.parts).flatMap (·.chars setting) = ident.quotedChars setting := by
  rw [Ident.quotedChars]
  induction ident.parts with
  | nil => rfl
  | cons part parts ih =>
    cases parts with
    | nil => simp [pathAtoms, Atom.separated, Atom.chars]
    | cons next parts =>
      rw [pathAtoms_cons, List.flatMap_cons, List.flatMap_cons, ih]
      simp [Atom.chars]

theorem onto_path {ident : Ident} (h : ident.quotedChars setting ≠ []) (text : List Char) :
    onto setting text (path ident) = (ident.quotedChars setting).reverse ++ (gap text ++ text) := by
  rw [← chars_pathAtoms] at h ⊢
  exact after_token h

/-- Names with a text between end in a name. -/
theorem exists_last_separated (separator : String) {texts : List String} (h : texts ≠ []) :
    ∃ init last, Atom.separated separator (texts.map fun text => [.name text]) = init ++ [.name last] := by
  induction texts with
  | nil => exact absurd rfl h
  | cons text texts ih =>
    cases texts with
    | nil => exact ⟨[], text, rfl⟩
    | cons next texts =>
      obtain ⟨init, last, hlast⟩ := ih (List.cons_ne_nil _ _)
      refine ⟨.name text :: .fixed separator :: init, last, ?_⟩
      rw [List.map_cons] at hlast
      rw [List.map_cons, List.map_cons, Atom.separated_cons, hlast]
      rfl

/-- A quoted name ends in the quote that closes its last part. -/
theorem exists_quotedChars_eq (setting : Setting) {table : Ident} (h : table.parts ≠ []) :
    ∃ init, table.quotedChars setting = init ++ [setting.closingQuote] := by
  obtain ⟨init, last, hlast⟩ := exists_last_separated "." h
  refine ⟨init.flatMap (·.chars setting) ++
    (setting.openingQuote :: doubled setting.closingQuote last.toList), ?_⟩
  rw [← chars_pathAtoms, pathAtoms, hlast, List.flatMap_append, List.flatMap_singleton, List.append_assoc]
  rfl

theorem gap_quotedChars (hm : setting.marks.IsReadable) {ident : Ident} (h : ident.parts ≠ []) :
    gap (ident.quotedChars setting).reverse = [' '] := by
  obtain ⟨init, last, hlast⟩ := exists_last_separated "." h
  rw [← chars_pathAtoms, pathAtoms, hlast]
  exact gap_concat init (gap_name hm last)

/-- A space may follow the names of columns. -/
theorem gap_columns (hm : setting.marks.IsReadable) {fields : List Field} (h : fields ≠ []) (text : List Char) :
    gap ((columns fields).onto setting text) = [' '] := by
  have hnames : fields.map (·.name) ≠ [] := by
    rwa [ne_eq, List.map_eq_nil_iff]
  obtain ⟨init, last, hlast⟩ := exists_last_separated ", " hnames
  have hatoms : Atom.listed (fields.map fun field => [.name field.name]) = init ++ [.name last] := by
    rw [← hlast, List.map_map]
    rfl
  have hgap := gap_concat init (gap_name hm last)
  have hne := ne_nil_of_gap hgap
  rw [ne_eq, List.reverse_eq_nil_iff] at hne
  show gap (Piece.after setting text (.token (Atom.listed _))) = [' ']
  rw [hatoms, after_token hne, gap_append (ne_nil_of_gap hgap), hgap]

/-! ### Pieces that begin with a token -/

/-- Pieces that start with a token that has a text. -/
def Opens (setting : Setting) (sql : Sql) : Prop :=
  ∃ atoms rest, sql = .token atoms :: rest ∧ atoms.flatMap (·.chars setting) ≠ []

theorem opens_word {written : String} (h : written.toList ≠ [] := by simp) : Opens setting (word written) :=
  ⟨[.fixed written], [], rfl, by simpa [Atom.chars] using h⟩

theorem opens_parenthesized (inner : Sql) : Opens setting (parenthesized inner) :=
  ⟨[.fixed "("], _, rfl, by simp [Atom.chars]⟩

/-- The text of pieces with the space before a token behind them. -/
def opening (setting : Setting) (sql : Sql) : String :=
  String.ofList (Piece.gap (sql.onto setting []) ++ sql.onto setting []).reverse

theorem opening_eq {sql : Sql} (h : gap (sql.onto setting []) = [' ']) :
    opening setting sql = render setting sql ++ " " := by
  apply String.toList_injective
  simp [opening, render, chars, h]

namespace Opens

theorem append (h : Opens setting a) (b : Sql) : Opens setting (a ++ b) := by
  obtain ⟨atoms, rest, rfl, hatoms⟩ := h
  exact ⟨atoms, rest ++ b, rfl, hatoms⟩

/-- A clause may be left out before pieces that begin with a token. -/
theorem prepend (ha : a = [] ∨ Opens setting a) (hb : Opens setting b) : Opens setting (a ++ b) := by
  rcases ha with rfl | ha
  · exact hb
  · exact ha.append b

/-- Behind any text, such pieces have the text that they have alone. -/
theorem onto_eq (h : Opens setting b) (text : List Char) :
    b.onto setting text = b.onto setting [] ++ (gap text ++ text) := by
  obtain ⟨atoms, rest, rfl, hatoms⟩ := h
  have hlast : (atoms.flatMap (·.chars setting)).reverse ≠ [] := by
    rwa [ne_eq, List.reverse_eq_nil_iff]
  obtain ⟨more, hmore⟩ := exists_onto setting rest (Piece.gap (atoms.flatMap (·.chars setting)).reverse)
  rw [onto_cons, onto_cons, after_token hatoms, after_token hatoms, hmore _ (gap_append hlast),
    hmore _ (gap_append hlast)]
  simp [Piece.gap]

theorem render_append (h : Opens setting b) : render setting (a ++ b) = opening setting a ++ render setting b := by
  apply String.toList_injective
  simp [render, chars, opening, onto_append, h.onto_eq (a.onto setting [])]

end Opens

/-! ### Statements -/

/-- Pieces that start with a token that has a text, and that end a statement. -/
structure Closed (setting : Setting) (sql : Sql) : Prop where
  opens : Opens setting sql
  closes : ∃ init, sql = init ++ stop

namespace Closed

theorem append (ha : Closed setting a) (hb : Closed setting b) : Closed setting (a ++ b) where
  opens := ha.opens.append b
  closes := by
    obtain ⟨init, rfl⟩ := hb.closes
    exact ⟨a ++ init, (List.append_assoc ..).symm⟩

theorem gap (h : Closed setting a) (text : List Char) : Piece.gap (a.onto setting text) = [' '] := by
  obtain ⟨init, rfl⟩ := h.closes
  rw [onto_append]
  rfl

theorem render_ne_empty (h : Closed setting a) : render setting a ≠ "" := by
  intro hempty
  have hne : a.onto setting [] ≠ [] := ne_nil_of_gap (h.gap [])
  have hnil := congrArg String.toList hempty
  simp only [render, chars, String.toList_ofList, String.toList_empty] at hnil
  exact hne (List.reverse_eq_nil_iff.mp hnil)

theorem exists_render_eq (h : Closed setting a) : ∃ front, render setting a = front ++ ";" := by
  obtain ⟨init, rfl⟩ := h.closes
  refine ⟨render setting init, ?_⟩
  apply String.toList_injective
  simp [render, chars, stop, onto, Piece.after]

/-- Two statements stand one behind the other with a space between. -/
theorem render_append (ha : Closed setting a) (hb : Closed setting b) :
    render setting (a ++ b) = render setting a ++ " " ++ render setting b := by
  apply String.toList_injective
  simp [render, chars, onto_append, hb.opens.onto_eq (a.onto setting []), ha.gap []]

end Closed

section Joined
variable {α : Type} {f : α → Sql} {l : List α}

theorem closed_flatMap (hne : l ≠ []) (h : ∀ x ∈ l, Closed setting (f x)) : Closed setting (l.flatMap f) := by
  induction l with
  | nil => exact absurd rfl hne
  | cons x rest ih =>
    simp only [List.forall_mem_cons] at h
    rw [List.flatMap_cons]
    by_cases hrest : rest = []
    · rw [hrest, List.flatMap_nil, List.append_nil]
      exact h.1
    · exact h.1.append (ih hrest h.2)

/-- Scripts stand one behind the other with spaces between. -/
theorem render_flatMap (h : ∀ x ∈ l, Closed setting (f x)) :
    render setting (l.flatMap f) = " ".intercalate (l.map fun x => render setting (f x)) := by
  induction l with
  | nil => rfl
  | cons x rest ih =>
    have hall := List.forall_mem_cons.mp h
    by_cases hrest : rest = []
    · rw [hrest, List.flatMap_singleton, List.map_singleton, String.intercalate_singleton]
    · have hmap : rest.map (fun x => render setting (f x)) ≠ [] := by
        rwa [ne_eq, List.map_eq_nil_iff]
      rw [List.map_cons, String.intercalate_cons_of_ne_nil hmap, ← ih hall.2, List.flatMap_cons]
      exact hall.1.render_append (closed_flatMap hrest hall.2)

end Joined

end Sql

namespace Statement
open Sql
variable {setting : Setting} {statement : Statement} {a b : List Statement}

theorem IsWritten.closed (h : statement.IsWritten) : Closed setting (statement.sql setting) := by
  cases statement with
  | selectKeys => cases h
  | query q => exact ⟨⟨[.fixed "SELECT"], _, rfl, by simp [Atom.chars]⟩, _, rfl⟩
  | numberedQuery q => exact ⟨⟨[.fixed "WITH CTE AS"], _, rfl, by simp [Atom.chars]⟩, _, rfl⟩
  | delete target filter => exact ⟨⟨[.fixed "DELETE"], _, rfl, by simp [Atom.chars]⟩, _, rfl⟩
  | truncate table restartIdentity =>
    exact ⟨⟨[.fixed "TRUNCATE TABLE"], _, rfl, by simp [Atom.chars]⟩, _, rfl⟩
  | update target updates row scope => exact ⟨⟨[.fixed "UPDATE"], _, rfl, by simp [Atom.chars]⟩, _, rfl⟩
  | insert i => exact ⟨⟨[.fixed "INSERT"], _, rfl, by simp [Atom.chars]⟩, _, rfl⟩
  | merge m => exact ⟨⟨[.fixed "MERGE"], _, rfl, by simp [Atom.chars]⟩, _, rfl⟩
  | identityInsert table on =>
    exact ⟨⟨[.fixed "BEGIN TRY SET IDENTITY_INSERT"], _, rfl, by simp [Atom.chars]⟩, _, rfl⟩

theorem render_append (ha : a ≠ []) (hb : b ≠ []) (hwa : ∀ s ∈ a, s.IsWritten) (hwb : ∀ s ∈ b, s.IsWritten) :
    render setting (a ++ b) = render setting a ++ " " ++ render setting b := by
  rw [render, List.flatMap_append]
  exact (closed_flatMap ha fun s hs => (hwa s hs).closed).render_append
    (closed_flatMap hb fun s hs => (hwb s hs).closed)

/-- Statements stand one behind the other with spaces between. -/
theorem render_eq_intercalate {statements : List Statement} (h : ∀ s ∈ statements, s.IsWritten) :
    render setting statements = " ".intercalate (statements.map fun s => render setting [s]) := by
  simp only [render, List.flatMap_singleton]
  exact render_flatMap fun s hs => (h s hs).closed

end Statement

end CrudSql

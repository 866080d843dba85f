import CrudSql.Proofs.Text.Separated
import CrudSql.Proofs.Token.Nesting

/-! The tokens of clauses. Lists are read as their items with commas between, and items in parentheses as a
    tuple. -/

namespace CrudSql

namespace Token

/-- Items with commas between. -/
def listed (items : List (List Token)) : List Token := [mark ','].intercalate items

/-- Items in parentheses. -/
def tuple (items : List (List Token)) : List Token := mark '(' :: (listed items ++ [mark ')'])

/-- The names of columns, one by one. -/
def names (fields : List Field) : List (List Token) := fields.map fun field => [name field.name]

/-- The parameters of columns in a row of a batch, one by one. -/
def parameters (fields : List Field) (row : Nat) : List (List Token) :=
  fields.map fun field => [placeholder (rowParameter field.name row)]

/-- The digits of a number. -/
def number (n : Nat) : Token := word (toString n)

theorem listed_cons_cons (item next : List Token) (items : List (List Token)) :
    listed (item :: next :: items) = item ++ mark ',' :: listed (next :: items) := by
  simp [listed, List.intercalate, List.intersperse]

theorem listed_cons (item : List Token) (items : List (List Token)) :
    listed (item :: items) = item ++ items.flatMap (mark ',' :: ·) := by
  induction items generalizing item with
  | nil => simp [listed]
  | cons next items ih => rw [listed_cons_cons, ih, List.flatMap_cons, List.cons_append]

/-- A list with one more item ends in a comma and the item, unless there was none. -/
theorem listed_concat (items : List (List Token)) (last : List Token) :
    listed (items ++ [last]) = if items = [] then last else listed items ++ mark ',' :: last := by
  cases items with
  | nil => simp [listed]
  | cons item items => simp [listed_cons]

end Token

open Token

namespace Atom

@[simp] theorem tokens_fixed (text : String) : tokens (fixed text) = phrase text := rfl

@[simp] theorem tokens_number (n : Nat) : tokens (number n) = [Token.number n] := rfl

@[simp] theorem tokens_name (text : String) : tokens (name text) = [.name text] := rfl

@[simp] theorem tokens_placeholder (text : String) : tokens (placeholder text) = [.placeholder text] := rfl

@[simp] theorem tokens_separated (separator : String) (items : List (List Atom)) :
    (separated separator items).flatMap (·.tokens) =
      (phrase separator).intercalate (items.map (·.flatMap (·.tokens))) := by
  induction items with
  | nil => rfl
  | cons item items ih =>
    cases items with
    | nil => simp [separated]
    | cons next items =>
      rw [separated_cons, List.flatMap_append, List.flatMap_cons, ih]
      simp [List.intercalate]

end Atom

namespace Sql
variable {a b sql : Sql}

@[simp] theorem tokens_nil : tokens [] = [] := rfl

@[simp] theorem tokens_token (atoms : List Atom) (rest : Sql) :
    tokens (.token atoms :: rest) = atoms.flatMap (·.tokens) ++ tokens rest := rfl

@[simp] theorem tokens_word (text : String) : (word text).tokens = phrase text := by
  simp [word]

@[simp] theorem tokens_comma : comma.tokens = [.mark ','] := rfl

@[simp] theorem tokens_stop : stop.tokens = [.mark ';'] := rfl

@[simp] theorem tokens_quoted (text : String) : (quoted text).tokens = [.name text] := rfl

@[simp] theorem tokens_named (label : String) : (named label).tokens = [.word "AS", .name label] := rfl

@[simp] theorem tokens_parenthesized :
    (parenthesized sql).tokens = .mark '(' :: (sql.tokens ++ [.mark ')']) := by
  simp only [parenthesized, tokens, List.flatMap_cons, List.flatMap_append]
  rfl

@[simp] theorem tokens_ite {p : Prop} [Decidable p] :
    (if p then a else b).tokens = if p then a.tokens else b.tokens :=
  apply_ite ..

@[simp] theorem tokens_list (items : List (List Atom)) :
    (list items).tokens = listed (items.map (·.flatMap (·.tokens))) := by
  simp only [list, tokens, List.flatMap_singleton, Piece.tokens, Atom.listed, Atom.tokens_separated]
  rfl

@[simp] theorem tokens_columns (fields : List Field) : (columns fields).tokens = listed (names fields) := by
  rw [columns, tokens_list, List.map_map]
  rfl

@[simp] theorem tokens_aliasedColumns (label : String) (fields : List Field) :
    (aliasedColumns label fields).tokens =
      listed (fields.map fun field => phrase (label ++ ".") ++ [.name field.name]) := by
  rw [aliasedColumns, tokens_list, List.map_map]
  rfl

@[simp] theorem tokens_parameters (fields : List Field) (row : Nat) :
    (parameters fields row).tokens = listed (Token.parameters fields row) := by
  rw [parameters, tokens_list, List.map_map]
  rfl

end Sql

end CrudSql

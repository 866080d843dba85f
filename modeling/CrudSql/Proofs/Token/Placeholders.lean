import CrudSql.Proofs.Token.Sql

/-! The parameters of clauses. Only lists of parameters, assignments and conditions have any. -/

namespace CrudSql

/-- The parameters of columns in a row of a batch. -/
def rowParameters (columns : List Field) (row : Nat) : List String :=
  columns.map fun field => rowParameter field.name row

theorem rowParameters_append (a b : List Field) (row : Nat) :
    rowParameters (a ++ b) row = rowParameters a row ++ rowParameters b row :=
  List.map_append

namespace Atom

@[simp] theorem placeholders_nil : placeholders [] = [] := rfl

@[simp] theorem placeholders_cons (atom : Atom) (atoms : List Atom) :
    placeholders (atom :: atoms) = atom.placeholder?.toList ++ placeholders atoms := by
  rw [placeholders, List.filterMap_cons]
  cases atom.placeholder? <;> rfl

@[simp] theorem placeholders_append (a b : List Atom) :
    placeholders (a ++ b) = placeholders a ++ placeholders b :=
  List.filterMap_append

@[simp] theorem placeholders_separated (separator : String) (items : List (List Atom)) :
    placeholders (separated separator items) = items.flatMap placeholders := by
  induction items with
  | nil => rfl
  | cons item items ih =>
    cases items with
    | nil => simp [separated]
    | cons next items =>
      rw [separated_cons, placeholders_append, placeholders_cons, ih, List.flatMap_cons]
      rfl

@[simp] theorem placeholders_listed (items : List (List Atom)) :
    placeholders (listed items) = items.flatMap placeholders :=
  placeholders_separated ", " items

theorem flatMap_placeholders {item : Field → List Atom} {row : Nat}
    (h : ∀ field, placeholders (item field) = [rowParameter field.name row]) (fields : List Field) :
    (fields.map item).flatMap placeholders = rowParameters fields row := by
  rw [List.flatMap_map, rowParameters, List.map_eq_flatMap]
  exact List.flatMap_congr fun field _ => h field

end Atom

namespace Sql
variable {a b sql : Sql}

@[simp] theorem placeholders_nil : placeholders [] = [] := rfl

@[simp] theorem placeholders_append : (a ++ b).placeholders = a.placeholders ++ b.placeholders :=
  List.flatMap_append

@[simp] theorem placeholders_token (atoms : List Atom) (rest : Sql) :
    placeholders (.token atoms :: rest) = Atom.placeholders atoms ++ rest.placeholders :=
  rfl

@[simp] theorem placeholders_flatMap {α : Type} (f : α → Sql) (l : List α) :
    placeholders (l.flatMap f) = l.flatMap fun x => (f x).placeholders :=
  List.flatMap_assoc

@[simp] theorem placeholders_ite {p : Prop} [Decidable p] :
    (if p then a else b).placeholders = if p then a.placeholders else b.placeholders :=
  apply_ite ..

@[simp] theorem placeholders_word (text : String) : (word text).placeholders = [] := rfl

@[simp] theorem placeholders_comma : comma.placeholders = [] := rfl

@[simp] theorem placeholders_stop : stop.placeholders = [] := rfl

@[simp] theorem placeholders_quoted (name : String) : (quoted name).placeholders = [] := rfl

@[simp] theorem placeholders_named (label : String) : (named label).placeholders = [] := rfl

@[simp] theorem placeholders_parenthesized : (parenthesized sql).placeholders = sql.placeholders := by
  show placeholders ([.token [.fixed "("]] ++ (sql ++ [.mark ')'])) = _
  rw [placeholders_append, placeholders_append]
  exact List.append_nil _

@[simp] theorem placeholders_path (ident : Ident) : (path ident).placeholders = [] := by
  simp [path, Atom.placeholder?]

@[simp] theorem placeholders_hints (text : Option String) : (hints text).placeholders = [] := by
  cases text <;> rfl

@[simp] theorem placeholders_list (items : List (List Atom)) :
    (list items).placeholders = items.flatMap Atom.placeholders := by
  simp [list]

@[simp] theorem placeholders_columns (fields : List Field) : (columns fields).placeholders = [] := by
  simp [columns, Atom.placeholder?]

@[simp] theorem placeholders_aliasedColumns (label : String) (fields : List Field) :
    (aliasedColumns label fields).placeholders = [] := by
  simp [aliasedColumns, Atom.placeholder?]

@[simp] theorem placeholders_parameters (fields : List Field) (row : Nat) :
    (parameters fields row).placeholders = rowParameters fields row := by
  rw [parameters, placeholders_list]
  exact Atom.flatMap_placeholders (fun _ => rfl) fields

@[simp] theorem placeholders_assignment (row : Nat) (field : Field) :
    Atom.placeholders (assignment row field) = [rowParameter field.name row] :=
  rfl

@[simp] theorem placeholders_assignments (fields : List Field) (row : Nat) :
    (assignments fields row).placeholders = rowParameters fields row := by
  rw [assignments, placeholders_list]
  exact Atom.flatMap_placeholders (placeholders_assignment row) fields

end Sql

end CrudSql

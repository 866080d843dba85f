import CrudSql.Json

/-! Documents: what configuration and metadata are read from, whichever format they are written in. A
    structure is read from a table by the names of its fields, or from a list by their order. -/

namespace CrudSql

/-- A value of either format. -/
inductive Document where
  | null
  | bool (value : Bool)
  | whole (value : Int)
  | text (value : String)
  | list (items : List Document)
  | table (members : List (String × Document))
  /-- A value that no field takes, such as a fraction. -/
  | other
  /-- A number that has no value, because it is too large or lacks digits. Not even a reader that has no
      use for it can pass over it. -/
  | invalid

/-- The formats in which documents are written, where they differ. -/
structure DocumentFormat where
  /-- What stands for nothing behind the name of a choice. -/
  isNothing : Document → Bool
  /-- Whether a list may have more items than a structure has fields. -/
  allowsSurplus : Bool

namespace DocumentFormat

/-- JSON: null is nothing, and a list has no item too many. -/
def json : DocumentFormat where
  isNothing
    | .null => true
    | _ => false
  allowsSurplus := false

/-- TOML: an empty list or table is nothing, and items too many are passed over. -/
def toml : DocumentFormat where
  isNothing
    | .list [] | .table [] => true
    | _ => false
  allowsSurplus := true

end DocumentFormat

namespace Document

mutual

/-- A JSON value as a document. Numbers that are not whole are read by no field. -/
def ofJson : Json → Document
  | .null => null
  | .bool value => bool value
  | .number literal =>
    match literal.int? with
    | some n => whole n
    | none => other
  | .text value => text value
  | .broken _ => other
  | .list items => list (ofJsonItems items)
  | .object members => table (ofJsonMembers members)

/-- The items of a list. -/
def ofJsonItems : List Json → List Document
  | [] => []
  | item :: items => ofJson item :: ofJsonItems items

/-- The members of an object. -/
def ofJsonMembers : List (String × Json) → List (String × Document)
  | [] => []
  | (key, value) :: members => (key, ofJson value) :: ofJsonMembers members

end

/-! ### Values of fields -/

/-- A truth value. -/
def bool? : Document → Option Bool
  | bool value => some value
  | _ => none

/-- A text. -/
def text? : Document → Option String
  | text value => some value
  | _ => none

/-- A text of exactly one character. -/
def char? : Document → Option Char
  | text value =>
    match value.toList with
    | [c] => some c
    | _ => none
  | _ => none

/-- A whole number that fits into so many bits without a sign. -/
def nat? (bits : Nat) : Document → Option Nat
  | whole n => if 0 ≤ n ∧ n < Nat.pow 2 bits then some n.toNat else none
  | _ => none

/-- The items of a list. -/
def list? : Document → Option (List Document)
  | list items => some items
  | _ => none

/-- A value or null. -/
def nullable {α : Type} (read : Document → Option α) : Document → Option (Option α)
  | null => some none
  | document => (read document).map some

/-- One of the names, either as a text or as the key of a table with nothing behind it. -/
def choice? (format : DocumentFormat) (names : List String) : Document → Option String
  | text name => if names.contains name then some name else none
  | table [(name, value)] =>
    if names.contains name && format.isNothing value then some name else none
  | _ => none

/-! ### Structures -/

mutual

/-- Whether every number in a document has a value. -/
def isValid : Document → Bool
  | list items => areItemsValid items
  | table members => areMembersValid members
  | invalid => false
  | _ => true

/-- Whether every number in the items has a value. -/
def areItemsValid : List Document → Bool
  | [] => true
  | item :: items => item.isValid && areItemsValid items

/-- Whether every number in the members has a value. -/
def areMembersValid : List (String × Document) → Bool
  | [] => true
  | (_, value) :: members => value.isValid && areMembersValid members

end

/-- The values of the named fields, each of which may be missing. A table may not have two members for a
    field. It may have others unless it is closed, and these are passed over; the items of a list that come
    after those for the fields are not looked at. -/
def fields? (format : DocumentFormat) (isClosed : Bool) (names : List String) :
    Document → Option (List (Option Document))
  | table members =>
    let others := members.filter fun member => !names.contains member.1
    if (isClosed && !others.isEmpty) || !areMembersValid others then none
    else names.mapM fun name =>
      match members.filter (·.1 == name) with
      | [] => some none
      | [(_, value)] => some (some value)
      | _ => none
  | list items =>
    if names.length < items.length && !format.allowsSurplus then none
    else some (names.mapIdx fun i _ => items[i]?)
  | _ => none

/-- The value of a field that must be there. -/
def required {α : Type} (read : Document → Option α) (value : Option Document) : Option α :=
  value.bind read

/-- The value of a field, or another value if the field is missing. -/
def withDefault {α : Type} (default : α) (read : Document → Option α) : Option Document → Option α
  | none => some default
  | some value => read value

end Document

end CrudSql

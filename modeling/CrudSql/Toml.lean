import CrudSql.Document

/-! TOML documents as trees of tables. A table remembers how it came to be, because that decides whether
    later lines may add to it. -/

namespace CrudSql.Toml

/-- How a table came to be: by a header of its own, by the header of a table inside it, or by a key with
    points. -/
inductive Origin where
  | header
  | inner
  | dotted
  deriving DecidableEq, Repr

/-- A value that is read line by line. -/
inductive Tree where
  /-- A value that no other line adds to. -/
  | closed (value : Document)
  | table (origin : Origin) (members : List (String × Tree))
  /-- A list of tables of which the last one is still open. -/
  | tables (earlier : List Document) (last : List (String × Tree))

/-- The members of a table that is still open. -/
abbrev Members := List (String × Tree)

mutual

/-- The value with everything that was read into it. -/
def Tree.document : Tree → Document
  | .closed value => value
  | .table _ members => .table (documents members)
  | .tables earlier last => .list (earlier ++ [.table (documents last)])

/-- The values of the members. -/
def documents : List (String × Tree) → List (String × Document)
  | [] => []
  | (key, tree) :: members => (key, tree.document) :: documents members

end

namespace Members

/-- The member of a key. -/
def get? (key : String) (members : Members) : Option Tree := members.lookup key

/-- Gives the member of a key another value. -/
def replace (key : String) (tree : Tree) (members : Members) : Members :=
  members.map fun member => if member.1 == key then (key, tree) else member

/-- The members with a new one at the end. -/
def push (key : String) (tree : Tree) (members : Members) : Members := members ++ [(key, tree)]

/-- Changes the table at a path, making the tables on the way that are missing. The path leads through the
    last one of a list of tables. The path of a key with points leads through no table that has a header,
    and it ends at a table that came to be by such a key. -/
def within (isDotted : Bool) (change : Members → Option Members) :
    List String → Members → Option Members
  | [], members => change members
  | key :: path, members =>
    match members.get? key with
    | none => do
      let made ← within isDotted change path []
      return members.push key (.table (if isDotted then .dotted else .inner) made)
    | some (.table origin inside) =>
      if isDotted && (origin == .header || (path.isEmpty && origin == .inner)) then none
      else do return members.replace key (.table origin (← within isDotted change path inside))
    | some (.tables earlier last) =>
      if isDotted && path.isEmpty then none
      else do return members.replace key (.tables earlier (← within isDotted change path last))
    | some (.closed _) => none

/-- Sets a key that has no value yet. -/
def assign (path : List String) (key : String) (value : Document) (members : Members) : Option Members :=
  members.within true (fun inside =>
    match inside.get? key with
    | none => some (inside.push key (.closed value))
    | some _ => none) path

/-- Opens a table by its header. It may exist so far only by the headers of tables inside it. -/
def openTable (path : List String) (key : String) (members : Members) : Option Members :=
  members.within false (fun inside =>
    match inside.get? key with
    | none => some (inside.push key (.table .header []))
    | some (.table .inner made) => some (inside.replace key (.table .header made))
    | some _ => none) path

/-- Opens the next table of a list of tables. -/
def openNext (path : List String) (key : String) (members : Members) : Option Members :=
  members.within false (fun inside =>
    match inside.get? key with
    | none => some (inside.push key (.tables [] []))
    | some (.tables earlier last) =>
      some (inside.replace key (.tables (earlier ++ [.table (documents last)]) []))
    | some _ => none) path

/-- The table of the members. -/
def document (members : Members) : Document := .table (documents members)

end Members

end CrudSql.Toml

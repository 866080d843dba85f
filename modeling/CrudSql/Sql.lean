import CrudSql.ParameterName
import CrudSql.Field

/-! SQL text as pieces. A piece says what it is made of, so that names, placeholders and fixed words can
    be told apart before any text is written; the engine's quotes and its parameter mark come in when the
    pieces are rendered. -/

namespace CrudSql

/-- The smallest parts of a statement. -/
inductive Atom where
  /-- Words and marks of the language. -/
  | fixed (text : String)
  | number (value : Int)
  /-- A name, to be written between quotes. -/
  | name (text : String)
  /-- A name that this library chooses, between quotes but with no quote doubled. -/
  | ownName (text : String)
  /-- A parameter, to be written behind the mark. -/
  | placeholder (text : String)
  /-- Text of the caller, written as it is. -/
  | verbatim (text : String)
  deriving DecidableEq, Repr

namespace Atom

/-- The text of an atom with the quotes and the mark of an engine. -/
def chars (setting : Setting) : Atom → List Char
  | fixed text => text.toList
  | number value => (toString value).toList
  | name text => quoteChars setting.openingQuote setting.closingQuote text.toList
  | ownName text => setting.openingQuote :: (text.toList ++ [setting.closingQuote])
  | placeholder text => setting.parameterMark :: text.toList
  | verbatim text => text.toList

/-- The atoms of several items with a separator between. -/
def separated (separator : String) (items : List (List Atom)) : List Atom :=
  [fixed separator].intercalate items

/-- The atoms of several items with commas between. -/
def listed (items : List (List Atom)) : List Atom := separated ", " items

end Atom

/-- Parts of a statement with the way in which they follow what is before. -/
inductive Piece where
  /-- Follows after a space, unless it is first or after a space or an opening parenthesis. A token
      without text leaves nothing. -/
  | token (atoms : List Atom)
  /-- Follows without a space. -/
  | mark (char : Char)
  deriving DecidableEq, Repr

/-- A text of SQL, piece by piece. -/
abbrev Sql := List Piece

namespace Piece

/-- The space between a text, given last character first, and a token. -/
def gap : List Char → List Char
  | [] => []
  | c :: _ => if c = '(' || c = ' ' then [] else [' ']

/-- A text and a piece after it, both last character first. -/
def after (setting : Setting) (text : List Char) : Piece → List Char
  | mark c => c :: text
  | token atoms =>
    match atoms.flatMap (·.chars setting) with
    | [] => text
    | cs => cs.reverse ++ (gap text ++ text)

end Piece

namespace Sql

/-- The text of the pieces, last character first, after a text given in the same way. -/
def onto (setting : Setting) (text : List Char) (sql : Sql) : List Char :=
  sql.foldl (Piece.after setting) text

/-- The characters of a text in order. -/
def chars (setting : Setting) (sql : Sql) : List Char := (sql.onto setting []).reverse

/-- The text of the pieces with the quotes and the parameter mark of an engine. -/
def render (setting : Setting) (sql : Sql) : String := String.ofList (sql.chars setting)

theorem onto_append (setting : Setting) (text : List Char) (a b : Sql) :
    (a ++ b).onto setting text = b.onto setting (a.onto setting text) :=
  List.foldl_append

/-! ### Words and lists -/

/-- A fixed text as a token. -/
def word (text : String) : Sql := [.token [.fixed text]]

/-- A comma, without a space before it. -/
def comma : Sql := [.mark ',']

/-- The end of a statement. -/
def stop : Sql := [.mark ';']

/-- Pieces within parentheses. -/
def parenthesized (inner : Sql) : Sql := .token [.fixed "("] :: (inner ++ [.mark ')'])

/-- A name as a token. -/
def quoted (name : String) : Sql := [.token [.name name]]

/-- The name under which a value or a column is returned. -/
def named (label : String) : Sql := word "AS" ++ quoted label

/-- An identifier as one token, with dots between its parts. -/
def path (ident : Ident) : Sql := [.token (Atom.separated "." (ident.parts.map fun part => [.name part]))]

/-- Hints of the caller, without the white space around them. -/
def hints : Option String → Sql
  | some text => [.token [.verbatim (Text.trim text)]]
  | none => []

/-- A list of items as one token. -/
def list (items : List (List Atom)) : Sql := [.token (Atom.listed items)]

/-- The names of columns. -/
def columns (fields : List Field) : Sql := list (fields.map fun field => [.name field.name])

/-- The columns of the rows that a label stands for. -/
def aliasedColumns (label : String) (fields : List Field) : Sql :=
  list (fields.map fun field => [.fixed (label ++ "."), .name field.name])

/-- The parameters of the columns in a row of a batch. -/
def parameters (fields : List Field) (row : Nat) : Sql :=
  list (fields.map fun field => [.placeholder (rowParameter field.name row)])

/-- A column, an equals sign and the column's parameter in a row of a batch. -/
def assignment (row : Nat) (field : Field) : List Atom :=
  [.name field.name, .fixed " = ", .placeholder (rowParameter field.name row)]

/-- What the columns are set to in a row of a batch. -/
def assignments (fields : List Field) (row : Nat) : Sql := list (fields.map (assignment row))

/-- The clause by which rows are ordered, if there is any. -/
def orderBy : List OrderField → Sql
  | [] => []
  | order => word "ORDER BY" ++ list (order.map fun item =>
      [.name item.field.name, .fixed (" " ++ item.direction.sql)])

end Sql

end CrudSql

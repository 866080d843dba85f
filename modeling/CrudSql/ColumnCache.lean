import CrudSql.Calendar
import CrudSql.Document.Columns
import CrudSql.Json.Read
import CrudSql.Json.Write
import CrudSql.KeyMap

/-! The columns of tables that are known already. A table is found by its identifier in any quotes and in
    any case, and all tables together are written as a JSON document. -/

namespace CrudSql

/-- A table that is known already. -/
structure CachedTable where
  /-- The name that was given for the table. -/
  name : String
  columns : Columns
  deriving DecidableEq, Repr

/-- The tables that are known already, each under its key. -/
structure ColumnCache where
  tables : KeyMap CachedTable := {}

namespace ColumnCache

/-- The version of the documents that are written and read. -/
def version : Nat := 1

/-- The key of a table: the parts of its identifier in small letters. -/
def key (table : String) : Except Fault String := do
  let ident ← Ident.parse table
  return Text.lower (".".intercalate ident.parts)

/-- The cache with these columns for the table, in place of those that it had. -/
def insert (cache : ColumnCache) (table : String) (columns : Columns) : Except Fault ColumnCache := do
  let key ← key table
  return ⟨cache.tables.insert key { name := Text.trim table, columns }⟩

/-- The columns of the table. Nothing is known of a name that is no identifier. -/
def get? (cache : ColumnCache) (table : String) : Option Columns :=
  match key table with
  | .error _ => none
  | .ok key => (cache.tables.get? key).map (·.columns)

/-- The cache without the table. -/
def erase (cache : ColumnCache) (table : String) : ColumnCache :=
  match key table with
  | .error _ => cache
  | .ok key => ⟨cache.tables.erase key⟩

/-- Whether the table is known. -/
def contains (cache : ColumnCache) (table : String) : Bool := (cache.get? table).isSome

/-- The number of tables. -/
def size (cache : ColumnCache) : Nat := cache.tables.size

/-- The tables in the order of their names. -/
def sorted (cache : ColumnCache) : List CachedTable :=
  cache.tables.values.mergeSort fun a b => !decide (b.name < a.name)

/-- The names that were given for the tables, in order. -/
def names (cache : ColumnCache) : List String := cache.sorted.map (·.name)

/-! ### As a document -/

/-- What is written of a cache. -/
structure File where
  version : Nat
  tables : List CachedTable

/-- Reads a table with its name and its columns. -/
def tableOfDocument? (document : Document) : Option CachedTable := do
  match ← document.fields? .json false ["name", "fields"] with
  | [name, columns] =>
    return {
      name := ← Document.required Document.text? name
      columns := ← Document.required (Columns.ofDocument? .json) columns }
  | _ => none

/-- Reads the version, the time and the tables of a cache. The time must be valid, and is not kept. -/
def File.ofDocument? (document : Document) : Option File := do
  match ← document.fields? .json false ["version", "retrieved_at", "tables"] with
  | [version, retrieved, tables] =>
    let version ← Document.required (Document.nat? 32) version
    let retrieved ← Document.required Document.text? retrieved
    let tables ← Document.required Document.list? tables
    let tables ← tables.mapM tableOfDocument?
    if Instant.isValid retrieved then some { version, tables } else none
  | _ => none

/-- The cache that a file of the known version describes. -/
def ofFile (file : File) : Except Fault ColumnCache :=
  if file.version ≠ version then .error (.cacheVersion file.version version)
  else file.tables.foldlM (fun cache table => cache.insert table.name table.columns) {}

/-- The cache that a JSON value holds. -/
def ofJson (json : Json) : Except Fault ColumnCache :=
  match File.ofDocument? (.ofJson json) with
  | none => .error .unreadable
  | some file => ofFile file

/-- The cache that a JSON text holds. -/
def parse (text : String) : Except Fault ColumnCache :=
  match Json.read? text with
  | none => .error .unreadable
  | some json => ofJson json

/-- The document of a cache whose columns were retrieved at the given time. -/
def toJson (cache : ColumnCache) (retrieved : String) : Json :=
  .object
    [("version", .ofNat version),
     ("retrieved_at", .text retrieved),
     ("tables", .list (cache.sorted.map fun table =>
       .object [("name", .text table.name), ("fields", table.columns.toJson)]))]

/-- The text of the document. -/
def text (cache : ColumnCache) (retrieved : String) : String := (cache.toJson retrieved).indented

end ColumnCache

end CrudSql

/-! What a database engine fixes for every statement, and what the caller chooses for it. -/

namespace CrudSql

/-- The properties of a database engine that shape a statement. -/
structure Setting where
  openingQuote : Char
  closingQuote : Char
  /-- The character that marks a placeholder. -/
  parameterMark : Char
  hintsSupported : Bool
  /-- The type to which a column is cast before it is averaged. -/
  averageType : Option String
  /-- The most placeholders that one statement may have. -/
  maxParameters : Nat
  /-- Whether pages are cut by OFFSET and FETCH. -/
  offsetFetch : Bool
  /-- A list longer than this is bound as one array. -/
  arrayThreshold : Option Nat := none
  /-- A list longer than this is read from a table of values. -/
  valuesThreshold : Option Nat := none
  /-- The most values that one list may have. -/
  maxListLength : Option Nat := none
  deriving DecidableEq, Repr

/-- How a comparison for inequality treats NULL. -/
inductive NullSemantics where
  /-- As SQL does: NULL is not unequal to anything. -/
  | ansi
  /-- NULL is unequal to every value. -/
  | nullNotEqual
  deriving DecidableEq, Repr

/-- The caller's choices for all statements of one builder. -/
structure Options where
  /-- Whether an insert writes the identity column itself. -/
  identityInsert : Bool := false
  nullSemantics : NullSemantics := .ansi
  /-- With more rows than this, a multi-row insert keeps the order of the rows by a merge. -/
  mergeInsertThreshold : Nat := 3
  deriving DecidableEq, Repr

namespace Setting

/-- SQL Server. -/
def sqlServer : Setting where
  openingQuote := '['
  closingQuote := ']'
  parameterMark := '@'
  hintsSupported := true
  averageType := some "FLOAT"
  maxParameters := 2100
  offsetFetch := true

/-- PostgreSQL. -/
def postgreSql : Setting where
  openingQuote := '"'
  closingQuote := '"'
  parameterMark := '@'
  hintsSupported := false
  averageType := some "DOUBLE PRECISION"
  maxParameters := 32767
  offsetFetch := false

/-- MySQL. -/
def mySql : Setting where
  openingQuote := '\x60'
  closingQuote := '\x60'
  parameterMark := '@'
  hintsSupported := false
  averageType := none
  maxParameters := 65535
  offsetFetch := false

end Setting

/-- Whether a list of the given length goes beyond a threshold that is set. -/
def exceeds (length : Nat) : Option Nat → Bool
  | some threshold => threshold < length
  | none => false

end CrudSql

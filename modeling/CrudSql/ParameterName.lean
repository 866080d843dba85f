import Std.Data.HashSet
import CrudSql.Text.Alphanumeric
import CrudSql.Text.LowerCase

/-! Names of parameters. A name has only letters, digits and underscores; two names clash if they differ
    at most by case. -/

namespace CrudSql
open Text

/-- Whether a character may stand in the name of a parameter. -/
def isParameterChar (c : Char) : Bool := isAlphanumeric c || c == '_'

/-- The name for a parameter that a text suggests: other characters become underscores. -/
def parameterBase (text : String) : String :=
  text.map fun c => if isParameterChar c then c else '_'

/-- The parameter of a column in a row of a batch; the first row has no number. -/
def rowParameter (column : String) (row : Nat) : String :=
  if row = 0 then parameterBase column else s!"{parameterBase column}_{row}"

/-- Names that are taken, as keys in lower case. -/
abbrev TakenNames := Std.HashSet String

namespace TakenNames

/-- The names that are tried for a base: itself, and behind it with the numbers from 1 on. -/
def candidate (base : String) (n : Nat) : String := if n = 0 then base else s!"{base}_{n}"

/-- The keys that a name takes with each of its endings. -/
def keys (name : String) (endings : List String) : List String :=
  endings.map fun ending => lower (name ++ ending)

/-- Tries the candidates from the `n`th on, at most as many as `attempts` says. -/
def firstFree (taken : TakenNames) (base : String) (endings : List String) :
    (attempts n : Nat) → String
  | 0, n => candidate base n
  | attempts + 1, n =>
    if (keys (candidate base n) endings).all fun key => !taken.contains key then candidate base n
    else firstFree taken base endings attempts (n + 1)

/-- The first candidate that is free with every ending, and the taken names with it. Each taken name can
    refuse one candidate for each ending, which bounds the search. -/
def assign (taken : TakenNames) (base : String) (endings : List String) : String × TakenNames :=
  let name := firstFree taken base endings (taken.size * endings.length + 1) 0
  (name, taken.insertMany (keys name endings))

end TakenNames

end CrudSql

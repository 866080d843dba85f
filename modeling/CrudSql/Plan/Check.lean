import Std.Data.HashMap
import CrudSql.Engine
import CrudSql.Predicate

/-! What every request is checked for before anything is built: its table, its fields, and the number and
    the names of its parameters. -/

namespace CrudSql.Check
open Text

/-- The table that a text names. -/
def table (text : String) : Except Fault Ident :=
  if trim text = "" then .error .tableBlank else Ident.parse text

/-- Hints are given only to an engine that knows them. -/
def hints (engine : Engine) (hints : Option String) : Except Fault Unit :=
  if hints.isSome && !engine.setting.hintsSupported then
    .error (.hintsUnsupported engine.dialect.name)
  else .ok ()

/-- At least one field is asked for. -/
def fields (set : FieldSet) : Except Fault Unit :=
  if set.isEmpty then .error .fieldsMissing else .ok ()

/-- At least one row is asked for. -/
def rows (count : Nat) : Except Fault Unit :=
  if count = 0 then .error .batchZero else .ok ()

/-- The largest count of parameters that can be told: 2⁶⁴ − 1. -/
def maxCount : Nat := 0xffffffffffffffff

/-- Rows with so many parameters each stay within the engine's limit. -/
def parameterLimit (setting : Setting) (perRow rows : Nat) : Except Fault Unit :=
  let count := min (perRow * rows) maxCount
  if setting.maxParameters < count then .error (.tooManyParameters count setting.maxParameters)
  else .ok ()

/-- The parameters seen so far, in lower case, each with the name of the field that has it. -/
abbrev Owners := Std.HashMap String String

/-- Adds the parameter of a field in a row. Another field of the same name may have it already, but no
    other field. -/
def claim (setting : Setting) (row : Nat) (owners : Owners) (field : Field) : Except Fault Owners :=
  let parameter := String.ofList [setting.parameterMark] ++ rowParameter field.name row
  let key := lower parameter
  match owners[key]? with
  | none => .ok (owners.insert key field.name)
  | some other =>
    if field.hasName other then .ok owners
    else .error (.parametersCollide parameter field.name other)

/-- No two fields have the same parameter in the rows of a batch: row 1 of `Name` has the parameter
    `Name_1`, as has row 0 of `Name_1`. -/
def parameterNames (setting : Setting) (set : FieldSet) (rows : Nat) : Except Fault Unit := do
  let _ ← (List.range rows).foldlM (fun owners row => set.fields.foldlM (claim setting row) owners)
    (∅ : Owners)
  return ()

/-- The first condition of a predicate whose list has more values than allowed. -/
def listLimit (setting : Setting) (predicate : Predicate) : Except Fault Unit :=
  match setting.maxListLength with
  | none => .ok ()
  | some limit =>
    predicate.conditions.forM fun condition =>
      match condition.test with
      | .among _ values =>
        if limit < values.length then
          .error (.listTooLong condition.field.name values.length limit)
        else .ok ()
      | _ => .ok ()

/-- The bindings of a filter, whose parameters stay within the limit together with those of the rest of
    the statement. -/
def filter (setting : Setting) (lead : String) (extra : Nat) :
    Option Predicate → Except Fault (List (String × Value))
  | none => .ok []
  | some predicate => do
    listLimit setting predicate
    let bindings := predicate.bindings setting.arrayThreshold lead
    parameterLimit setting (bindings.length + extra) 1
    return bindings

end CrudSql.Check

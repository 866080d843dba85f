import CrudSql.Ident
import CrudSql.Text.LowerCase

/-! Fields: names of columns, each perhaps with the type of its values, and ordered sets of them whose
    names differ by more than case. -/

namespace CrudSql
open Text

/-- The type of a column's values on the client's side. -/
inductive ClientType where
  | boolean
  | int16
  | int32
  | int64
  | float32
  | float64
  | decimal
  | string
  | bytes
  | uuid
  | date
  | time
  | dateTime
  | json
  | other (name : String)
  deriving DecidableEq, Repr

/-- Whether two names are the same but for case. -/
def sameName (a b : String) : Bool := lowerEach a.toList == lowerEach b.toList

/-- The name of a column, perhaps with the type of its values. -/
structure Field where
  name : String
  type : Option ClientType := none
  deriving DecidableEq, Repr

namespace Field

/-- The field that a text names, without white space and one pair of quotes around it. -/
def named (text : String) : Except Fault Field :=
  let name := trim (unquote (trim text))
  if name = "" then .error .fieldBlank else .ok { name }

/-- The field that a text names, with a type. -/
def typed (text : String) (type : ClientType) : Except Fault Field := do
  return { ← named text with type := some type }

/-- Whether a text, without white space and quotes around it, is the field's name but for case. -/
def hasName (field : Field) (text : String) : Bool := sameName field.name (unquote (trim text))

/-- The name between the quotes of an engine. -/
def quoted (field : Field) (setting : Setting) : String :=
  String.ofList (quoteChars setting.openingQuote setting.closingQuote field.name.toList)

end Field

/-- Fields in order, none of which is named like an earlier one. -/
structure FieldSet where
  fields : List Field := []
  distinct : fields.Pairwise fun earlier later => earlier.hasName later.name = false := by
    exact .nil
  deriving DecidableEq, Repr

namespace FieldSet

/-- The set without fields. -/
def empty : FieldSet := {}

/-- Whether there is no field. -/
def isEmpty (set : FieldSet) : Bool := set.fields.isEmpty

/-- The number of fields. -/
def size (set : FieldSet) : Nat := set.fields.length

/-- The names of the fields in order, as they are spelled. -/
def names (set : FieldSet) : List String := set.fields.map (·.name)

/-- The field with the given name. -/
def get? (set : FieldSet) (name : String) : Option Field := set.fields.find? (·.hasName name)

/-- Whether a field has the name, in whatever case and between whatever quotes. -/
def contains (set : FieldSet) (name : String) : Bool := (set.get? name).isSome

theorem contains_eq_any (set : FieldSet) (name : String) :
    set.contains name = set.fields.any (·.hasName name) :=
  List.isSome_find?

/-- The set with the field at its end, unless it has a field of that name. -/
def push (set : FieldSet) (field : Field) : FieldSet :=
  if found : set.contains field.name then set
  else {
    fields := set.fields ++ [field]
    distinct := by
      rw [contains_eq_any, List.any_eq_true] at found
      refine List.pairwise_append.mpr ⟨set.distinct, List.pairwise_singleton _ _, ?_⟩
      intro earlier present later added
      rw [List.mem_singleton.mp added]
      exact Bool.eq_false_iff.mpr fun same => found ⟨earlier, present, same⟩ }

/-- The fields in order, without those named like an earlier one. -/
def ofList (fields : List Field) : FieldSet := fields.foldl push empty

/-- The set of one field. -/
def singleton (field : Field) : FieldSet := ⟨[field], List.pairwise_singleton _ _⟩

/-- The set of the fields that the texts name. -/
def parse (names : List String) : Except Fault FieldSet := return ofList (← names.mapM Field.named)

/-- The fields that are to be kept, in order. -/
def filter (set : FieldSet) (keep : Field → Bool) : FieldSet :=
  ⟨set.fields.filter keep, set.distinct.filter keep⟩

/-- The fields of the first set and, behind them, those of the second that it takes in. -/
def union (a b : FieldSet) : FieldSet := b.fields.foldl push a

/-- The fields of the first set whose names the second has. -/
def inter (a b : FieldSet) : FieldSet := a.filter fun field => b.contains field.name

/-- The fields of the first set whose names the second has not. -/
def diff (a b : FieldSet) : FieldSet := a.filter fun field => !b.contains field.name

/-- Whether the second set has every name of the first. -/
def isSubset (a b : FieldSet) : Bool := a.fields.all fun field => b.contains field.name

/-- Whether the first set has every name of the second. -/
def isSuperset (a b : FieldSet) : Bool := b.isSubset a

/-- Whether a name of the first set is in the second. -/
def overlaps (a b : FieldSet) : Bool := a.fields.any fun field => b.contains field.name

end FieldSet

/-- Whether rows go up or down. -/
inductive Direction where
  | ascending
  | descending
  deriving DecidableEq, Repr

/-- The keyword for the direction. -/
def Direction.sql : Direction → String
  | ascending => "ASC"
  | descending => "DESC"

/-- A field by which rows are ordered. -/
structure OrderField where
  field : Field
  direction : Direction := .ascending
  deriving DecidableEq, Repr

/-- The field that a text names, with a direction. -/
def OrderField.named (text : String) (direction : Direction) : Except Fault OrderField := do
  return { field := ← Field.named text, direction }

end CrudSql

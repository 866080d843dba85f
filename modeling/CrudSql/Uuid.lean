import CrudSql.Text.Hex

/-! Universally unique identifiers, and their text of five groups of hexadecimal digits. -/

namespace CrudSql

/-- A universally unique identifier, by its bits. -/
structure Uuid where
  bits : BitVec 128
  deriving DecidableEq, Repr

namespace Uuid

/-- The groups of digits between hyphens have these lengths. -/
def groupLengths : List Nat := [8, 4, 4, 4, 12]

/-- The groups of a text between hyphens. -/
def groups : List Char → List (List Char)
  | [] => [[]]
  | '-' :: rest => [] :: groups rest
  | c :: rest =>
    match groups rest with
    | [] => [[c]]
    | group :: more => (c :: group) :: more

/-- Reads 32 digits, either in one run or in groups, also within braces or after `urn:uuid:`. -/
def parse? (text : String) : Option Uuid := do
  let cs := text.toList
  let cs :=
    if "urn:uuid:".toList.isPrefixOf cs then cs.drop 9
    else if cs.head? = some '\x7b' && cs.getLast? = some '\x7d' then cs.tail.dropLast
    else cs
  let digits ←
    if cs.length = 32 then some cs
    else if (groups cs).map (·.length) = groupLengths then some (groups cs).flatten
    else none
  return ⟨BitVec.ofNat 128 (← Text.ofHex? digits)⟩

/-- The digits in small letters, in groups with hyphens between. -/
def text (uuid : Uuid) : String :=
  let cut := groupLengths.foldl (fun (done, left) n => (done ++ [left.take n], left.drop n))
    (([] : List (List Char)), Text.hexDigits 32 uuid.bits.toNat)
  String.ofList (['-'].intercalate cut.1)

end Uuid

end CrudSql

import CrudSql.Value

/-! JSON values. A number is kept as its literal, and a string that is no text, because it has half of a
    surrogate pair, as its characters and escapes. -/

namespace CrudSql

/-- A number as it is written: digits before and after the point, and an exponent. -/
structure NumberLiteral where
  negative : Bool := false
  whole : List Nat
  fraction : List Nat := []
  exponent : Option Int := none
  deriving DecidableEq, Repr

/-- A character of a string, or the number of a unit that is escaped. -/
inductive StringPart where
  | char (c : Char)
  | unit (n : Nat)
  deriving DecidableEq, Repr

/-- A JSON value as it was read or is to be written. -/
inductive Json where
  | null
  | bool (value : Bool)
  | number (literal : NumberLiteral)
  | text (value : String)
  /-- A string with half of a surrogate pair, or an object with such a key. -/
  | broken (parts : List StringPart)
  | list (items : List Json)
  /-- The members in the order in which they are written. -/
  | object (members : List (String × Json))

namespace NumberLiteral

/-- The literal of a natural number. -/
def ofNat (n : Nat) : NumberLiteral := { whole := (Nat.toDigits 10 n).map fun c => c.toNat - '0'.toNat }

/-- The number that digits denote. -/
def digitsValue (digits : List Nat) : Nat := digits.foldl (fun n digit => n * 10 + digit) 0

/-- The largest significand that is kept exactly: 2⁶⁴ − 1. -/
def maxSignificand : Nat := 0xffffffffffffffff

/-- The numbers with a sign go from the opposite of this one to the one below it: 2⁶³. -/
def signedEnd : Nat := 0x8000000000000000

/-- Takes digits into a significand as long as it is kept exactly; the number of digits that are left. -/
def takeDigits (significand : Nat) : List Nat → Nat × Nat
  | [] => (significand, 0)
  | digit :: rest =>
    if significand * 10 + digit ≤ maxSignificand then takeDigits (significand * 10 + digit) rest
    else (significand, rest.length + 1)

/-- The whole number that a literal without fraction and exponent denotes, if it fits into 64 bits with
    or without a sign. A negative zero is no whole number. -/
def int? (literal : NumberLiteral) : Option Int :=
  if literal.fraction ≠ [] ∨ literal.exponent ≠ none then none
  else
    let n := digitsValue literal.whole
    if literal.negative then (if 0 < n ∧ n ≤ signedEnd then some (-n) else none)
    else if n ≤ maxSignificand then some n else none

/-- The number of 64 bits that the literal denotes, if there is one. Digits that do not fit into the
    significand are dropped; those of the whole part count for the exponent. -/
def binary64? (literal : NumberLiteral) : Option Binary64 :=
  let (whole, dropped) := takeDigits 0 literal.whole
  let (significand, left) := takeDigits whole literal.fraction
  let exponent : Int := dropped - (literal.fraction.length - left : Nat) + literal.exponent.getD 0
  Binary64.ofDecimal? literal.negative significand exponent

end NumberLiteral

namespace Json

instance : Inhabited Json := ⟨null⟩

/-- A natural number. -/
def ofNat (n : Nat) : Json := number (.ofNat n)

/-- A whole number. -/
def ofInt (n : Int) : Json := number { NumberLiteral.ofNat n.natAbs with negative := n < 0 }

/-- A text of one character. -/
def ofChar (c : Char) : Json := text (String.ofList [c])

/-- A value, or null if there is none. -/
def ofOption : Option Json → Json
  | some value => value
  | none => null

/-- The member of an object with a key; of several the last one. -/
def member? (key : String) : Json → Option Json
  | object members => (members.reverse.find? (·.1 == key)).map (·.2)
  | _ => none

/-- The members of an object in the order of their keys; of several with one key the last one. -/
def sortedMembers (members : List (String × Json)) : List (String × Json) :=
  let distinct := members.foldl (fun kept member => kept.filter (·.1 != member.1) ++ [member]) []
  distinct.mergeSort fun a b => !decide (b.1 < a.1)

end Json

namespace Value

/-- The value of a JSON value. Objects have none. -/
def ofJson? : Json → Option Value
  | .null => some .null
  | .bool value => some (.scalar (.bool value))
  | .number literal =>
    match literal.int? with
    | some i =>
      some (.scalar (if i < NumberLiteral.signedEnd then .int i else .float (.ofNat i.toNat)))
    | none => (literal.binary64?).map fun x => .scalar (.float x)
  | .text value => some (.scalar (.text value))
  | .broken _ => none
  | .list items => (items.mapM ofJson?).map .list
  | .object _ => none

end Value

end CrudSql

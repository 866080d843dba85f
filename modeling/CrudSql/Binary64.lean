import CrudSql.Text.Hex

/-! Floating-point numbers of 64 bits, kept as their bits so that two of them are equal only if they are
    the same number, and the numbers that decimal literals denote. -/

namespace CrudSql

/-- A binary64 number by its sign, exponent and fraction bits. -/
structure Binary64 where
  bits : UInt64
  deriving DecidableEq, Repr

namespace Binary64

/-- The bits of a float. -/
def ofFloat (x : Float) : Binary64 := ⟨x.toBits⟩

/-- The number nearest to a natural number below 2⁶⁴; of two nearest ones the even one. -/
def ofNat (n : Nat) : Binary64 := ofFloat n.toUInt64.toFloat

/-- The largest power of ten that is a binary64 number is 10³⁰⁸. -/
def maxTenPower : Nat := 308

/-- The binary64 number nearest to a power of ten. -/
def tenPower (k : Nat) : Float := Float.ofScientific 1 false k

/-- The number `x` divided by 10³⁰⁸ as often as the rest of a power of ten asks for, and at last by what
    remains of it; 0 divided by a power of ten is 0. -/
def divideByTens (x : Float) (k : Nat) : Float :=
  if k ≤ maxTenPower then x / tenPower k
  else if x == 0 then x
  else divideByTens (x / tenPower maxTenPower) (k - maxTenPower)
termination_by k
decreasing_by simp only [maxTenPower] at *; omega

/-- The value of a decimal literal, given the digits of its significand as a number below 2⁶⁴ and the
    power of ten that scales it. The significand and the power are rounded before they are multiplied
    or divided, and there is no value beyond the range of the format. -/
def ofDecimal? (negative : Bool) (significand : Nat) (exponent : Int) : Option Binary64 :=
  let x := significand.toUInt64.toFloat
  let signed (y : Float) : Binary64 := ofFloat (if negative then -y else y)
  if exponent < 0 then some (signed (divideByTens x exponent.natAbs))
  else if exponent.toNat ≤ maxTenPower then
    let y := x * tenPower exponent.toNat
    if y.isInf then none else some (signed y)
  else if x == 0 then some (signed x)
  else none

/-- The bits as sixteen hexadecimal digits. -/
def hex (x : Binary64) : String := String.ofList (Text.hexDigits 16 x.bits.toNat)

end Binary64

end CrudSql

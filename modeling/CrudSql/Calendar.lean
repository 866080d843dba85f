import CrudSql.Text.Blank

/-! Dates, times of day and points in time, as far as texts of them are read and written. -/

namespace CrudSql

namespace Calendar

/-- Whether February has 29 days. -/
def isLeapYear (year : Int) : Bool :=
  year % 4 == 0 && (year % 100 != 0 || year % 400 == 0)

/-- The length of a month, numbered from 1. -/
def daysInMonth (year : Int) (month : Nat) : Nat :=
  match month with
  | 1 | 3 | 5 | 7 | 8 | 10 | 12 => 31
  | 4 | 6 | 9 | 11 => 30
  | 2 => if isLeapYear year then 29 else 28
  | _ => 0

/-- Whether the year has a day of that number in a month of that number. -/
def isDate (year : Int) (month day : Nat) : Bool :=
  1 ≤ day && day ≤ daysInMonth year month

/-- Between one and `most` digits at the start of a text, as a number. -/
def digits? (most : Nat) (cs : List Char) : Option (Nat × List Char) :=
  let run := (cs.takeWhile Char.isDigit).take most
  if run.isEmpty then none
  else some (run.foldl (fun n c => n * 10 + (c.toNat - '0'.toNat)) 0, cs.drop run.length)

/-- The rest of a text after one character. -/
def after? (c : Char) : List Char → Option (List Char)
  | d :: rest => if d = c then some rest else none
  | [] => none

end Calendar

open Calendar

/-- A date and a time of day without a time zone. -/
structure LocalDateTime where
  year : Int
  month : Nat
  day : Nat
  hour : Nat
  minute : Nat
  second : Nat
  deriving DecidableEq, Repr

namespace LocalDateTime

/-- Reads a text such as `2024-02-29T12:30:00`. Any minute may have a leap second. -/
def parse? (text : String) : Option LocalDateTime := do
  let (year, cs) ← digits? 4 text.toList
  let (month, cs) ← digits? 2 (← after? '-' cs)
  let (day, cs) ← digits? 2 (← after? '-' cs)
  let (hour, cs) ← digits? 2 (← after? 'T' cs)
  let (minute, cs) ← digits? 2 (← after? ':' cs)
  let (second, cs) ← digits? 2 (← after? ':' cs)
  if cs.isEmpty && isDate year month day && hour < 24 && minute < 60 && second ≤ 60 then
    some { year, month, day, hour, minute, second }
  else none

/-- A number with zeros before it up to a width. -/
def padded (width n : Nat) : String :=
  let digits := Nat.toDigits 10 n
  String.ofList (List.replicate (width - digits.length) '0' ++ digits)

/-- The date and the time of day, to the second. -/
def text (t : LocalDateTime) : String :=
  padded 4 t.year.toNat ++ "-" ++ padded 2 t.month ++ "-" ++ padded 2 t.day ++ "T" ++
    padded 2 t.hour ++ ":" ++ padded 2 t.minute ++ ":" ++ padded 2 t.second

end LocalDateTime

namespace Instant
open Text

/-- What follows the white space at the start. -/
def skipBlank (cs : List Char) : List Char := cs.dropWhile isBlank

/-- A number after white space. -/
def number? (most : Nat) (cs : List Char) : Option (Nat × List Char) := digits? most (skipBlank cs)

/-- A year after white space; with a sign it may have any number of digits. -/
def year? (cs : List Char) : Option (Int × List Char) :=
  match skipBlank cs with
  | '-' :: rest => (digits? rest.length rest).map fun (n, rest) => (-n, rest)
  | '+' :: rest => (digits? rest.length rest).map fun (n, rest) => ((n : Int), rest)
  | rest => (digits? 4 rest).map fun (n, rest) => ((n : Int), rest)

/-- A mark, perhaps after white space. -/
def mark? (c : Char) (cs : List Char) : Option (List Char) := after? c (skipBlank cs)

/-- The rest of a text after the fraction of a second, if there is one. -/
def afterFraction? : List Char → Option (List Char)
  | '.' :: rest =>
    if (rest.takeWhile Char.isDigit).isEmpty then none else some (rest.dropWhile Char.isDigit)
  | cs => some cs

/-- The seconds by which a clock is ahead, and the rest of the text. -/
def offset? (cs : List Char) : Option (Int × List Char) :=
  match cs with
  | c :: rest =>
    if c = 'Z' ∨ c = 'z' then some (0, rest)
    else if (cs.take 3).map Char.toUpper = ['U', 'T', 'C'] then some (0, cs.drop 3)
    else if c = '+' ∨ c = '-' ∨ c = Char.ofNat 0x2212 then
      match rest with
      | h₁ :: h₂ :: rest => do
        let (hours, _) ← if h₁.isDigit && h₂.isDigit then digits? 2 [h₁, h₂] else none
        match rest.dropWhile fun d => d == ':' || isBlank d with
        | m₁ :: m₂ :: rest =>
          let (minutes, _) ← if m₁.isDigit && m₂.isDigit then digits? 2 [m₁, m₂] else none
          if minutes < 60 then
            let seconds : Int := hours * 3600 + minutes * 60
            some (if c = '+' then seconds else -seconds, rest)
          else none
        | _ => none
      | _ => none
    else none
  | [] => none

/-- The years that a point in time may have. -/
def minYear : Int := -262143

/-- The last of these years. -/
def maxYear : Int := 262142

/-- Whether a text names a point in time: a date, a time of day that may have a leap second, and the
    offset of the clock. The point must lie within the years that are known. -/
def isValid (text : String) : Bool :=
  let read : Option Bool := do
    let (year, cs) ← year? text.toList
    let (month, cs) ← number? 2 (← mark? '-' cs)
    let (day, cs) ← number? 2 (← mark? '-' cs)
    let cs ← match cs with
      | c :: rest => if c = 't' ∨ c = 'T' ∨ c = ' ' then some rest else none
      | [] => none
    let (hour, cs) ← number? 2 cs
    let (minute, cs) ← number? 2 (← mark? ':' cs)
    let (second, cs) ← number? 2 (← mark? ':' cs)
    let cs ← afterFraction? cs
    let (offset, cs) ← offset? (skipBlank cs)
    let clock : Int := hour * 3600 + minute * 60 + min second 59 - offset
    return (skipBlank cs).isEmpty && isDate year month day && hour < 24 && minute < 60 && second ≤ 60 &&
      offset.natAbs < 86400 && minYear ≤ year && year ≤ maxYear &&
      !(year == minYear && month == 1 && day == 1 && clock < 0) &&
      !(year == maxYear && month == 12 && day == 31 && 86400 ≤ clock)
  read.getD false

end Instant

end CrudSql

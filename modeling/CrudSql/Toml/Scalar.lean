import CrudSql.Calendar
import CrudSql.Document
import CrudSql.Text.Hex

/-! Numbers, truth values, dates and times in TOML documents: everything that is written without quotes
    or brackets. -/

namespace CrudSql.Toml

/-- The number that digits of a base denote. -/
def ofDigits (base : Nat) (digits : List Char) : Nat :=
  digits.foldl (fun n c => n * base + (Text.hexDigit? c).getD 0) 0

/-- A text without its underscores, behind a digit or not. Each underscore must follow a digit and be
    followed by one. -/
def joinedAfter? (isDigit : Char → Bool) (afterDigit : Bool) : List Char → Option (List Char)
  | [] => some []
  | c :: rest =>
    if c = '_' then
      if afterDigit && rest.head?.any isDigit then joinedAfter? isDigit false rest else none
    else (joinedAfter? isDigit (isDigit c) rest).map (c :: ·)

/-- A text without its underscores, which may only stand between digits. -/
def joined? (isDigit : Char → Bool) (cs : List Char) : Option (List Char) := joinedAfter? isDigit false cs

/-- Whether a zero stands before other digits. -/
def hasLeadingZero : List Char → Bool
  | '0' :: c :: _ => c.isDigit || c == '_'
  | _ => false

/-- Whether a number is negative, and what follows its sign. -/
def afterSign : List Char → Bool × List Char
  | '+' :: rest => (false, rest)
  | '-' :: rest => (true, rest)
  | cs => (false, cs)

/-- A number with its sign. -/
def signed (negative : Bool) (n : Nat) : Int := if negative then -(n : Int) else n

/-! ### Whole numbers -/

/-- A whole number has a value if it fits into 128 bits, with or without a sign. -/
def whole (n : Int) : Document :=
  if -(Nat.pow 2 127 : Int) ≤ n && n < Nat.pow 2 128 then .whole n else .invalid

/-- The digits of a number in a base that is a power of two. Without any it has no value. -/
def baseNumber? (base : Nat) (cs : List Char) : Option Document := do
  let isDigit (c : Char) : Bool := (Text.hexDigit? c).any (· < base)
  let digits ← joined? isDigit cs
  if digits.isEmpty then some .invalid
  else if digits.all isDigit then some (whole (ofDigits base digits))
  else none

/-- A whole number of base ten behind its sign. It starts with digits; behind an underscore other characters
    may stand too, but then the number has no value. Where underscores are concerned, all hexadecimal digits
    count as digits. -/
def decimal? (negative : Bool) (cs : List Char) : Option Document := do
  let rest := cs.dropWhile Char.isDigit
  if cs.isEmpty || hasLeadingZero cs || !(rest.isEmpty || rest.head? == some '_') then none
  let digits ← joined? (fun c => (Text.hexDigit? c).isSome) cs
  if digits.all Char.isDigit then some (whole (signed negative (ofDigits 10 digits))) else some .invalid

/-! ### Fractions -/

/-- The digits at the start of a text, at least one, and what follows them. -/
def digits? (cs : List Char) : Option (List Char × List Char) :=
  let run := cs.takeWhile Char.isDigit
  if run.isEmpty then none else some (run, cs.dropWhile Char.isDigit)

/-- The digits of the fraction of a number and what follows them. -/
def fraction? : List Char → Option (List Char × List Char)
  | '.' :: rest => digits? rest
  | cs => some ([], cs)

/-- The exponent of a number, at the end of its text. -/
def exponent? : List Char → Option Int
  | [] => some 0
  | c :: rest =>
    if c = 'e' ∨ c = 'E' then
      let (negative, rest) := afterSign rest
      match digits? rest with
      | some (digits, []) => some (signed negative (ofDigits 10 digits))
      | _ => none
    else none

/-- Half a unit above the largest number of 64 bits: numbers from there on are not finite. -/
def infinite : Nat := Nat.pow 2 1024 - Nat.pow 2 970

/-- Whether a number with some digits and an exponent is finite when it is rounded to 64 bits. -/
def isFinite (digits : List Char) (exponent : Int) : Bool :=
  let n := ofDigits 10 digits
  let places : Int := (digits.dropWhile (· == '0')).length + exponent
  if n = 0 ∨ places < 309 then true
  else if 309 < places then false
  else if 0 ≤ exponent then n * Nat.pow 10 exponent.toNat < infinite
  else n < infinite * Nat.pow 10 exponent.natAbs

/-- A number with a fraction or an exponent, behind its sign. It has a value if it is finite. -/
def float? (cs : List Char) : Option Document := do
  let (integer, rest) ← digits? (← joined? Char.isDigit cs)
  let (fraction, rest) ← fraction? rest
  let exponent ← exponent? rest
  if hasLeadingZero cs then none
  else if isFinite (integer ++ fraction) (exponent - fraction.length) then some .other
  else some .invalid

/-- The number that a text is. It may be written although it has no value. -/
def number? (cs : List Char) : Option Document :=
  match cs with
  | '0' :: 'x' :: rest => baseNumber? 16 rest
  | '0' :: 'o' :: rest => baseNumber? 8 rest
  | '0' :: 'b' :: rest => baseNumber? 2 rest
  | cs =>
    let (negative, rest) := afterSign cs
    if rest = "inf".toList ∨ rest = "nan".toList then some .other
    else if rest.any fun c => c == '.' || c == 'e' || c == 'E' then float? rest
    else decimal? negative rest

/-! ### Dates and times -/

/-- A number of exactly so many digits. -/
def fixed? (width : Nat) (cs : List Char) : Option (Nat × List Char) :=
  let run := cs.take width
  if run.length = width && run.all Char.isDigit then some (ofDigits 10 run, cs.drop width) else none

/-- What follows a date. -/
def afterDate? (cs : List Char) : Option (List Char) := do
  let (year, cs) ← fixed? 4 cs
  let (month, cs) ← fixed? 2 (← Calendar.after? '-' cs)
  let (day, cs) ← fixed? 2 (← Calendar.after? '-' cs)
  if Calendar.isDate year month day then some cs else none

/-- What follows a time of day, which may lack the seconds. -/
def afterTime? (cs : List Char) : Option (List Char) := do
  let (hour, cs) ← fixed? 2 cs
  let (minute, cs) ← fixed? 2 (← Calendar.after? ':' cs)
  if hour < 24 && minute < 60 then
    match cs with
    | ':' :: cs => do
      let (second, cs) ← fixed? 2 cs
      if second ≤ 60 then Instant.afterFraction? cs else none
    | cs => some cs
  else none

/-- Whether a text is the offset of a clock, or empty. -/
def isOffset : List Char → Bool
  | [] => true
  | c :: rest =>
    if c = 'Z' ∨ c = 'z' then rest.isEmpty
    else
      let minutes? : Option Bool := do
        let (hour, rest) ← fixed? 2 rest
        let (minute, rest) ← fixed? 2 (← Calendar.after? ':' rest)
        return hour < 24 && minute < 60 && rest.isEmpty
      (c = '+' || c = '-') && minutes?.getD false

/-- Whether a text is a date, a time of day or both. -/
def isMoment (cs : List Char) : Bool :=
  match afterDate? cs with
  | some [] => true
  | some (c :: rest) =>
    (c = 'T' || c = 't' || c = ' ') && (afterTime? rest).any isOffset
  | none => (afterTime? cs).any List.isEmpty

/-! ### Values -/

/-- A date or time is read as a table with a single member, which no structure has. -/
def moment : Document := .table [("date-time", .other)]

/-- A value that is not between quotes or brackets. -/
def scalar? (cs : List Char) : Option Document :=
  if cs = "true".toList then some (.bool true)
  else if cs = "false".toList then some (.bool false)
  else if isMoment cs then some moment
  else number? cs

end CrudSql.Toml

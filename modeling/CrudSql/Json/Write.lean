import CrudSql.Json

/-! Writing JSON values: on one line, or with every item of a list and every member of an object on a
    line of its own. -/

namespace CrudSql.Json

/-- Quotes, backslashes and control characters are escaped. -/
def escapeChar (c : Char) : List Char :=
  if c = '"' then ['\\', '"']
  else if c = '\\' then ['\\', '\\']
  else if c = '\x08' then ['\\', 'b']
  else if c = '\x0c' then ['\\', 'f']
  else if c = '\n' then ['\\', 'n']
  else if c = '\r' then ['\\', 'r']
  else if c = '\t' then ['\\', 't']
  else if c.toNat < 32 then '\\' :: 'u' :: Text.hexDigits 4 c.toNat
  else [c]

/-- A text between double quotes. -/
def quotedText (s : String) : String :=
  String.ofList ('"' :: (s.toList.flatMap escapeChar ++ ['"']))

/-- How a part of a string is written. -/
def partChars : StringPart → List Char
  | .char c => escapeChar c
  | .unit n => '\\' :: 'u' :: Text.hexDigits 4 n

/-- A number as it was read. -/
def literalText (literal : NumberLiteral) : String :=
  let digitText (digits : List Nat) : String := String.ofList (digits.map Nat.digitChar)
  (if literal.negative then "-" else "") ++ digitText literal.whole ++
  (if literal.fraction.isEmpty then "" else "." ++ digitText literal.fraction) ++
  (match literal.exponent with
    | some e => "e" ++ toString e
    | none => "")

/-- The text of a value that is neither a list nor an object. -/
def scalarText : Json → String
  | bool true => "true"
  | bool false => "false"
  | number literal => literalText literal
  | text s => quotedText s
  | broken parts => String.ofList ('"' :: (parts.flatMap partChars ++ ['"']))
  | _ => "null"

/-- How the items of a list and the members of an object are set apart. -/
structure Layout where
  /-- The start of a line at a depth. -/
  line : Nat → String
  /-- Between a key and its value. -/
  colon : String

/-- Everything on one line. -/
def Layout.compact : Layout := ⟨fun _ => "", ":"⟩

/-- A line for everything, indented by two spaces for each level. -/
def Layout.indented : Layout :=
  ⟨fun depth => String.ofList ('\n' :: List.replicate (2 * depth) ' '), ": "⟩

mutual

/-- The pieces of text of a value at a depth. -/
def write (layout : Layout) (depth : Nat) : Json → List String
  | list [] => ["[]"]
  | list (item :: items) =>
    "[" :: layout.line (depth + 1) :: (write layout (depth + 1) item ++
      writeItems layout (depth + 1) items ++ [layout.line depth, "]"])
  | object [] => ["\x7b\x7d"]
  | object ((key, value) :: members) =>
    "\x7b" :: layout.line (depth + 1) :: quotedText key :: layout.colon ::
      (write layout (depth + 1) value ++ writeMembers layout (depth + 1) members ++
        [layout.line depth, "\x7d"])
  | null => [scalarText null]
  | bool value => [scalarText (bool value)]
  | number literal => [scalarText (number literal)]
  | text s => [scalarText (text s)]
  | broken parts => [scalarText (broken parts)]

/-- The items after the first one. -/
def writeItems (layout : Layout) (depth : Nat) : List Json → List String
  | [] => []
  | item :: items =>
    "," :: layout.line depth :: (write layout depth item ++ writeItems layout depth items)

/-- The members after the first one. -/
def writeMembers (layout : Layout) (depth : Nat) : List (String × Json) → List String
  | [] => []
  | (key, value) :: members =>
    "," :: layout.line depth :: quotedText key :: layout.colon ::
      (write layout depth value ++ writeMembers layout depth members)

end

/-- The value on one line. -/
def compact (json : Json) : String := String.join (write .compact 0 json)

/-- The value over several lines. -/
def indented (json : Json) : String := String.join (write .indented 0 json)

end CrudSql.Json

import CrudSql.Toml
import CrudSql.Toml.Scalar

/-! Reading TOML texts. Every reader takes what it reads from the start of the text and returns the
    rest. -/

namespace CrudSql.Toml

/-! ### White space -/

/-- Whether a character may stand between the parts of a line. -/
def isSpace (c : Char) : Bool := c == ' ' || c == '\t'

/-- What follows the space at the start. -/
def skipSpace (cs : List Char) : List Char := cs.dropWhile isSpace

/-- Whether a character may stand in a comment or a string: a tab, or one that controls nothing. -/
def isPlain (c : Char) : Bool := c == '\t' || (32 ≤ c.toNat && c.toNat != 127)

/-- The end of a line and what follows it. -/
def newline? : List Char → Option (List Char × List Char)
  | '\n' :: rest => some (['\n'], rest)
  | '\r' :: '\n' :: rest => some (['\r', '\n'], rest)
  | _ => none

/-- What follows the end of a line. -/
def afterNewline? (cs : List Char) : Option (List Char) := (newline? cs).map (·.2)

/-- What follows a comment, if there is one. -/
def skipComment : List Char → List Char
  | '#' :: rest => rest.dropWhile isPlain
  | cs => cs

/-- Skips white space, ends of lines and comments. -/
def skipBlank (inComment : Bool) : List Char → List Char
  | [] => []
  | '\r' :: '\n' :: rest => skipBlank false rest
  | c :: rest =>
    if c == '\n' then skipBlank false rest
    else if inComment then (if isPlain c then skipBlank true rest else c :: rest)
    else if isSpace c then skipBlank false rest
    else if c == '#' then skipBlank true rest
    else c :: rest

/-- Skips white space and ends of lines. -/
def skipLines : List Char → List Char
  | [] => []
  | '\r' :: '\n' :: rest => skipLines rest
  | c :: rest => if c == '\n' || isSpace c then skipLines rest else c :: rest

/-! ### Strings -/

/-- The character with a number of so many hexadecimal digits. -/
def numbered? (width : Nat) (cs : List Char) : Option (Char × List Char) := do
  let n ← Text.ofHex? (cs.take width)
  if (cs.take width).length = width ∧ n.isValidChar then some (Char.ofNat n, cs.drop width) else none

/-- The character that is written behind a backslash. -/
def escape? : List Char → Option (Char × List Char)
  | '"' :: rest => some ('"', rest)
  | '\\' :: rest => some ('\\', rest)
  | 'b' :: rest => some ('\x08', rest)
  | 'e' :: rest => some ('\x1b', rest)
  | 'f' :: rest => some ('\x0c', rest)
  | 'n' :: rest => some ('\n', rest)
  | 'r' :: rest => some ('\r', rest)
  | 't' :: rest => some ('\t', rest)
  | 'x' :: rest => numbered? 2 rest
  | 'u' :: rest => numbered? 4 rest
  | 'U' :: rest => numbered? 8 rest
  | _ => none

/-- The characters of a string whose opening quotes have been read. A string over several lines ends with
    three quotes and may have two more before them; its lines end as they are written, and a backslash at
    the end of a line joins it to the next one. Only a double quote allows escapes. -/
def stringChars? (quote : Char) (isMultiline : Bool) : Nat → List Char → Option (List Char × List Char)
  | 0, _ => none
  | fuel + 1, cs =>
    let follow (chars : List Char) (rest : List Char) : Option (List Char × List Char) :=
      (stringChars? quote isMultiline fuel rest).map fun (more, rest) => (chars ++ more, rest)
    let quotes := (cs.takeWhile (· == quote)).length
    if 0 < quotes then
      if !isMultiline then some ([], cs.drop 1)
      else if quotes < 3 then follow (List.replicate quotes quote) (cs.drop quotes)
      else some (List.replicate (min quotes 5 - 3) quote, cs.drop (min quotes 5))
    else
      match newline? cs with
      | some (chars, rest) => if isMultiline then follow chars rest else none
      | none =>
        match cs with
        | [] => none
        | c :: rest =>
          if quote == '"' && c == '\\' then
            match afterNewline? (skipSpace rest) with
            | some rest => if isMultiline then follow [] (skipLines rest) else none
            | none =>
              match escape? rest with
              | some (c, rest) => follow [c] rest
              | none => none
          else if isPlain c then follow [c] rest
          else none

/-- The string at the start of a text, whose first quote has been read. -/
def string? (quote : Char) (isMultilineAllowed : Bool) (cs : List Char) :
    Option (String × List Char) :=
  let read (isMultiline : Bool) (cs : List Char) : Option (String × List Char) :=
    (stringChars? quote isMultiline (cs.length + 1) cs).map fun (chars, rest) =>
      (String.ofList chars, rest)
  if isMultilineAllowed && cs.take 2 == [quote, quote] then
    read true ((afterNewline? (cs.drop 2)).getD (cs.drop 2))
  else read false cs

/-! ### Keys -/

/-- A key has so many parts at most, and lists and tables in braces are nested so deep at most. -/
def maxDepth : Nat := 80

/-- Whether a character may stand in a key without quotes. -/
def isBare (c : Char) : Bool := c.isAlphanum || c == '-' || c == '_'

/-- A key without points. -/
def simpleKey? : List Char → Option (String × List Char)
  | '"' :: rest => string? '"' false rest
  | '\'' :: rest => string? '\'' false rest
  | cs =>
    let run := cs.takeWhile isBare
    if run.isEmpty then none else some (String.ofList run, cs.dropWhile isBare)

/-- A key of so many parts at most, with points between them, as a path and its last part. White space
    around it is skipped. -/
def keyOf? : Nat → List Char → Option ((List String × String) × List Char)
  | 0, _ => none
  | parts + 1, cs => do
    let (key, rest) ← simpleKey? (skipSpace cs)
    match skipSpace rest with
    | '.' :: rest =>
      let ((path, last), rest) ← keyOf? parts rest
      return ((key :: path, last), rest)
    | rest => return (([], key), rest)

/-- A key that may have points. -/
def key? (cs : List Char) : Option ((List String × String) × List Char) := keyOf? maxDepth cs

/-! ### Values -/

/-- Whether a character may stand in a value without quotes or brackets. -/
def isScalarChar (c : Char) : Bool :=
  !(isSpace c || c == '\n' || c == '\r' || c == '#' || c == ',' || c == '=' || c == '[' || c == ']' ||
    c == '\x7b' || c == '\x7d')

/-- The characters of a scalar. Between a date and a time there may be a space. -/
def scalarRun (cs : List Char) : List Char × List Char :=
  let run := cs.takeWhile isScalarChar
  match afterDate? run, cs.dropWhile isScalarChar with
  | some [], ' ' :: c :: rest =>
    if c.isDigit then
      (run ++ ' ' :: (c :: rest).takeWhile isScalarChar, (c :: rest).dropWhile isScalarChar)
    else (run, ' ' :: c :: rest)
  | _, rest => (run, rest)

mutual

/-- The value at the start of a text, in so many lists and tables less than there may be. -/
def value? (depth : Nat) : Nat → List Char → Option (Document × List Char)
  | 0, _ => none
  | fuel + 1, cs =>
    match cs with
    | '"' :: rest => (string? '"' true rest).map fun (text, rest) => (.text text, rest)
    | '\'' :: rest => (string? '\'' true rest).map fun (text, rest) => (.text text, rest)
    | '[' :: rest =>
      if depth = 0 then none
      else (items? (depth - 1) fuel rest).map fun (items, rest) => (.list items, rest)
    | '\x7b' :: rest =>
      if depth = 0 then none
      else (members? (depth - 1) fuel [] rest).map fun (members, rest) => (members.document, rest)
    | cs =>
      let (run, rest) := scalarRun cs
      (scalar? run).map (·, rest)

/-- The items of a list up to its end; the last one may be followed by a comma. -/
def items? (depth : Nat) : Nat → List Char → Option (List Document × List Char)
  | 0, _ => none
  | fuel + 1, cs =>
    match skipBlank false cs with
    | ']' :: rest => some ([], rest)
    | cs => do
      let (item, rest) ← value? depth fuel cs
      match skipBlank false rest with
      | ',' :: rest =>
        let (items, rest) ← items? depth fuel rest
        return (item :: items, rest)
      | ']' :: rest => return ([item], rest)
      | _ => none

/-- The members of a table in braces up to its end, added to those that have been read. Lines may end and
    comments may stand everywhere but within a key or a scalar. -/
def members? (depth : Nat) : Nat → Members → List Char → Option (Members × List Char)
  | 0, _, _ => none
  | fuel + 1, members, cs =>
    match skipBlank false cs with
    | '\x7d' :: rest => some (members, rest)
    | cs => do
      let ((path, key), rest) ← key? cs
      match skipBlank false rest with
      | '=' :: rest =>
        let (value, rest) ← value? depth fuel (skipBlank false rest)
        let members ← members.assign path key value
        match skipBlank false rest with
        | ',' :: rest => members? depth fuel members rest
        | '\x7d' :: rest => return (members, rest)
        | _ => none
      | _ => none

end

/-! ### Lines -/

/-- What a document consists of. A header has the path of a table and its key. -/
inductive Line where
  | blank
  | assign (path : List String) (key : String) (value : Document)
  | table (path : List String) (key : String)
  | next (path : List String) (key : String)

/-- The next line, up to what may follow it before its end. -/
def line? (cs : List Char) : Option (Line × List Char) :=
  match cs with
  | '[' :: '[' :: rest => do
    let ((path, key), rest) ← key? rest
    match rest with
    | ']' :: ']' :: rest => return (.next path key, rest)
    | _ => none
  | '[' :: rest => do
    let ((path, key), rest) ← key? rest
    match rest with
    | ']' :: rest => return (.table path key, rest)
    | _ => none
  | cs => do
    let ((path, key), rest) ← key? cs
    match rest with
    | '=' :: rest =>
      let (value, rest) ← value? maxDepth (2 * rest.length + 2) (skipSpace rest)
      return (.assign path key value, rest)
    | _ => none

/-- The lines of a text. -/
def lines? : Nat → List Char → Option (List Line)
  | 0, _ => none
  | fuel + 1, cs => do
    let cs := skipSpace cs
    let (line, rest) ←
      if (skipComment cs).isEmpty || (afterNewline? (skipComment cs)).isSome then some (.blank, cs)
      else line? cs
    match skipComment (skipSpace rest) with
    | [] => return [line]
    | rest =>
      let lines ← lines? fuel (← afterNewline? rest)
      return line :: lines

/-- The members of a document and the path of the table that is open, after one more line. -/
def addLine : Members × List String → Line → Option (Members × List String)
  | state, .blank => some state
  | (members, current), .assign path key value => do
    return (← members.within false (Members.assign path key value) current, current)
  | (members, _), .table path key => do return (← members.openTable path key, path ++ [key])
  | (members, _), .next path key => do return (← members.openNext path key, path ++ [key])

/-- A mark of the byte order at the start of a text is no part of it. -/
def skipByteOrderMark : List Char → List Char
  | c :: rest => if c = '\ufeff' then rest else c :: rest
  | [] => []

/-- The document that a whole text is. -/
def read? (text : String) : Option Document := do
  let cs := skipByteOrderMark text.toList
  let lines ← lines? (cs.length + 1) cs
  let (members, _) ← lines.foldlM addLine ([], [])
  return members.document

end CrudSql.Toml

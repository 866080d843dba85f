import CrudSql.Fault
import CrudSql.Quote
import CrudSql.Setting

/-! Identifiers: names of tables and columns, split at the dots outside quotes and free of quotes. An
    identifier is written again with the quotes of an engine. -/

namespace CrudSql
open Text

/-- A name of one part or more, such as that of a table in a schema. -/
structure Ident where
  /-- The parts, outermost first. -/
  parts : List String
  deriving DecidableEq, Repr

namespace Ident

/-- The object that the identifier names: its last part. -/
def name (ident : Ident) : String := ident.parts.getLastD ""

/-- The parts, each between quotes, with dots between them. -/
def quotedChars (ident : Ident) (setting : Setting) : List Char :=
  ['.'].intercalate (ident.parts.map fun part =>
    quoteChars setting.openingQuote setting.closingQuote part.toList)

/-- The identifier as it is written in SQL. -/
def quoted (ident : Ident) (setting : Setting) : String :=
  String.ofList (ident.quotedChars setting)

/-! ### Reading -/

/-- A part without quotes at the start of a text, and what follows it: all up to the next dot. -/
def barePart (whole : String) (cs : List Char) : Except Fault (List Char × List Char) :=
  let written := cs.takeWhile (· ≠ '.')
  match written.find? isQuote with
  | some quote => .error (.quoteStray quote whole)
  | none =>
    if trimChars written = [] then .error (.partBlank whole)
    else .ok (trimChars written, cs.dropWhile (· ≠ '.'))

/-- The part at the start of a text, and what follows it. -/
def firstPart (whole : String) (cs : List Char) : Except Fault (List Char × List Char) :=
  match cs with
  | [] => barePart whole []
  | c :: rest =>
    match closingQuote? c with
    | none => barePart whole (c :: rest)
    | some close =>
      match quotedName? close rest with
      | none => .error (.quoteUnclosed whole)
      | some ([], _) => .error .quotedBlank
      | some (part, after) => .ok (part, after)

theorem length_of_firstPart {whole : String} {cs part after : List Char}
    (h : firstPart whole cs = .ok (part, after)) : after.length ≤ cs.length := by
  have bare : ∀ {cs : List Char}, barePart whole cs = .ok (part, after) →
      after.length ≤ cs.length := by
    intro cs h
    simp only [barePart] at h
    split at h
    · cases h
    · split at h
      · cases h
      · cases h
        exact (List.dropWhile_suffix _).length_le
  unfold firstPart at h
  split at h
  · exact bare h
  · split at h
    · exact bare h
    · split at h
      · cases h
      · cases h
      · cases h
        have := length_of_quotedName? ‹_›
        simp only [List.length_cons]
        omega

/-- The parts of a text that starts where a part starts, if need be after white space. -/
def readParts (whole : String) (cs : List Char) : Except Fault (List (List Char)) :=
  match _first : firstPart whole (cs.dropWhile isBlank) with
  | .error fault => .error fault
  | .ok (part, after) =>
    match _following : after.dropWhile isBlank with
    | [] => .ok [part]
    | c :: rest =>
      if c ≠ '.' then .error (.dotMissing c)
      else if rest = [] then .error (.dotTrailing whole)
      else match readParts whole rest with
        | .error fault => .error fault
        | .ok parts => .ok (part :: parts)
termination_by cs.length
decreasing_by
  have h₁ := length_of_firstPart _first
  have h₂ := (List.dropWhile_suffix (p := isBlank) (l := cs)).length_le
  have h₃ := (List.dropWhile_suffix (p := isBlank) (l := after)).length_le
  rw [_following] at h₃
  simp only [List.length_cons] at h₃
  omega

/-- The trimmed text, unless it is blank or has a character that no identifier may have. -/
def content (text : String) : Except Fault (List Char) :=
  let cs := trimChars text.toList
  if cs = [] then .error .identifierBlank
  else if Char.ofNat 0 ∈ cs then .error .identifierNul
  else .ok cs

/-- The identifier that a text names, with a part for each segment between dots outside quotes. -/
def parse (text : String) : Except Fault Ident := do
  let cs ← content text
  let parts ← readParts (String.ofList cs) cs
  return ⟨parts.map String.ofList⟩

/-- The identifier with one part that a text names; a dot is a character of the part. -/
def single (text : String) : Except Fault Ident := do
  let cs ← content text
  let part := trimChars (unquoteChars cs)
  if part = [] then throw .quotedBlank
  return ⟨[String.ofList part]⟩

end Ident

end CrudSql

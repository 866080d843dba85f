import CrudSql.Text.Blank

/-! Quotes around names. A quoted name is closed by the first closing quote that does not stand twice. -/

namespace CrudSql

/-- The pairs of an opening quote and its closing quote that a given name may carry. -/
def quotePairs : List (Char × Char) := [('[', ']'), ('"', '"'), ('\x60', '\x60')]

/-- The quote that closes what the given character opens. -/
def closingQuote? (c : Char) : Option Char :=
  (quotePairs.find? (·.1 == c)).map (·.2)

/-- Whether a character opens or closes a quoted name. -/
def isQuote (c : Char) : Bool := quotePairs.any fun pair => pair.1 == c || pair.2 == c

/-- Without one pair of quotes, if such a pair surrounds the name. -/
def unquoteChars : List Char → List Char
  | [] => []
  | c :: rest =>
    match closingQuote? c with
    | some close => if rest.getLast? = some close then rest.dropLast else c :: rest
    | none => c :: rest

/-- A text without one pair of quotes around it, if it has one. -/
def unquote (s : String) : String := String.ofList (unquoteChars s.toList)

/-- Every closing quote written twice. -/
def doubled (close : Char) (name : List Char) : List Char :=
  name.flatMap fun c => if c = close then [c, c] else [c]

/-- The name between quotes. -/
def quoteChars (opening close : Char) (name : List Char) : List Char :=
  opening :: (doubled close name ++ [close])

/-- The name whose quoted form, less its opening quote, starts a text, and what follows it. -/
def quotedName? (close : Char) : List Char → Option (List Char × List Char)
  | [] => none
  | [c] => if c = close then some ([], []) else none
  | c :: d :: rest =>
    if c = close then
      if d = close then (quotedName? close rest).map fun (name, after) => (c :: name, after)
      else some ([], d :: rest)
    else (quotedName? close (d :: rest)).map fun (name, after) => (c :: name, after)

theorem length_of_quotedName? {close : Char} {cs name after : List Char}
    (h : quotedName? close cs = some (name, after)) : after.length < cs.length := by
  fun_induction quotedName? close cs generalizing name after with
  | case1 => cases h
  | case2 => cases h; simp
  | case3 => cases h
  | case4 rest ih =>
    obtain ⟨⟨inner, _⟩, found, eq⟩ := Option.map_eq_some_iff.1 h
    cases eq
    have := ih found
    simp only [List.length_cons]
    omega
  | case5 => cases h; simp
  | case6 c d rest _ ih =>
    obtain ⟨⟨inner, _⟩, found, eq⟩ := Option.map_eq_some_iff.1 h
    cases eq
    have := ih found
    simp only [List.length_cons] at this ⊢
    omega

end CrudSql

import Mathlib.Data.List.Chain
import CrudSql.Proofs.ParameterName
import CrudSql.Proofs.Quote
import CrudSql.Proofs.Token.Phrase
import CrudSql.Sql

/-! The tokens of SQL pieces. Pieces are sound if every atom reads as the tokens that it stands for and
    no two neighbours run together; then the rendered text reads as the tokens of its pieces, under the
    quotes of every engine. -/

namespace CrudSql

namespace Atom

/-- The tokens that an atom stands for: those of a fixed text, or one that holds all of it. -/
def tokens : Atom → List Token
  | fixed text | verbatim text => phrase text
  | number value => [.word (toString value)]
  | name text | ownName text => [.name text]
  | placeholder text => [.placeholder text]

/-- The name of a parameter. -/
def placeholder? : Atom → Option String
  | placeholder text => some text
  | _ => none

/-- The parameters of atoms, each as often as it stands there. -/
def placeholders (atoms : List Atom) : List String := atoms.filterMap (·.placeholder?)

/-- What an atom stands for is what an engine reads. -/
def Sound : Atom → Prop
  | fixed text | verbatim text => text ∈ phrases
  | number value => 0 ≤ value
  | name _ => True
  | ownName text => ∀ c ∈ text.toList, isQuote c = false
  | placeholder text => ∀ c ∈ text.toList, isParameterChar c = true

/-- Whether the atom begins with a separator, so that it may follow any other. -/
def opensFree : Atom → Bool
  | fixed text | verbatim text => text.toList.head?.any isSeparator
  | _ => false

/-- Whether the atom ends with a separator, so that any other may follow it. -/
def endsFree : Atom → Bool
  | fixed text | verbatim text => text.toList.getLast?.any isSeparator
  | _ => false

/-- A separator stands where the two atoms meet. -/
def Apart (a b : Atom) : Prop := a.endsFree = true ∨ b.opensFree = true

theorem separated_cons {separator : String} {item next : List Atom} {items : List (List Atom)} :
    separated separator (item :: next :: items) =
      item ++ fixed separator :: separated separator (next :: items) := by
  simp [separated, List.intercalate, List.intersperse]

end Atom

namespace Piece

/-- The tokens of a piece, whatever it follows. -/
def tokens : Piece → List Token
  | token atoms => atoms.flatMap (·.tokens)
  | mark c => [.mark c]

/-- The parameters of a piece, each as often as it stands there. -/
def placeholders : Piece → List String
  | token atoms => Atom.placeholders atoms
  | mark _ => []

/-- Every atom reads as its tokens, and no two neighbours run together. A mark separates. -/
def Sound : Piece → Prop
  | token atoms => (∀ atom ∈ atoms, atom.Sound) ∧ atoms.IsChain Atom.Apart
  | mark c => c ∈ [')', ',', ';']

end Piece

namespace Sql

/-- The tokens of a text, piece by piece. -/
def tokens (sql : Sql) : List Token := sql.flatMap (·.tokens)

/-- The parameters of a text, each as often as it stands there. -/
def placeholders (sql : Sql) : List String := sql.flatMap (·.placeholders)

/-- Every piece reads as its tokens. -/
def Sound (sql : Sql) : Prop := ∀ piece ∈ sql, piece.Sound

end Sql

section Reading
variable {setting : Setting} {text : List Char} {ts : List Token}

/-! ### Atoms -/

/-- A number that is not negative is written in digits alone. -/
theorem toList_toString_digits {value : Int} (h : 0 ≤ value) : (toString value).toList ≠ [] ∧
    ∀ c ∈ (toString value).toList, c.isDigit = true := by
  obtain ⟨n, rfl⟩ := Int.eq_ofNat_of_zero_le h
  have : (toString (n : Int)).toList = Nat.toDigits 10 n := Nat.toList_repr
  rw [this]
  exact ⟨Nat.toDigits_ne_nil, fun c hc => Nat.isDigit_of_mem_toDigits (by omega) (by omega) hc⟩

theorem Atom.Sound.read {atom : Atom} (hs : atom.Sound) (h : setting.marks.IsReadable) :
    setting.marks.read (atom.chars setting) = some atom.tokens := by
  cases atom with
  | fixed text | verbatim text => exact h.read_phrase hs
  | number value =>
    obtain ⟨hne, hdigits⟩ := toList_toString_digits hs
    exact Marks.read_word h hne fun c hc => isParameterChar_of_isDigit (hdigits c hc)
  | name text => exact Marks.read_quoteChars text
  | ownName text =>
    have hd : doubled setting.closingQuote text.toList = text.toList :=
      doubled_eq_self_iff.mpr fun hclose => (h.ne_quotes (hs _ hclose)).2 rfl
    have hname : setting.marks.read (setting.openingQuote ::
        (doubled setting.closingQuote text.toList ++ [setting.closingQuote])) = some [.name text] :=
      Marks.read_quoteChars text
    rwa [hd] at hname
  | placeholder text => exact Marks.read_placeholder h hs

theorem Atom.Sound.isKnown {atom : Atom} (hs : atom.Sound) : ∀ t ∈ atom.tokens, t.IsKnown := by
  intro t ht
  cases atom with
  | fixed text | verbatim text =>
    have := isFixed_of_mem_phrase hs t ht
    cases t <;> first | exact this | cases this
  | number value =>
    cases List.mem_singleton.mp ht
    have := (toList_toString_digits hs).2
    simp only [Token.IsKnown, Token.isFixed, Bool.or_eq_true, List.all_eq_true]
    exact Or.inr this
  | name | ownName =>
    cases List.mem_singleton.mp ht
    trivial
  | placeholder text =>
    cases List.mem_singleton.mp ht
    exact hs

theorem Atom.Sound.placeholders {atom : Atom} (hs : atom.Sound) :
    atom.tokens.filterMap (·.placeholder?) = atom.placeholder?.toList := by
  cases atom with
  | fixed text | verbatim text =>
    refine List.filterMap_eq_nil_iff.mpr fun t ht => ?_
    have := isFixed_of_mem_phrase hs t ht
    cases t <;> first | rfl | cases this
  | number | name | ownName | placeholder => rfl

theorem Atom.endsFree_chars {atom : Atom} (h : atom.endsFree = true) : EndsFree (atom.chars setting) := by
  intro c hc
  cases atom with
  | fixed text | verbatim text =>
    rw [Option.mem_def] at hc
    simpa [endsFree, show text.toList.getLast? = some c from hc] using h
  | number | name | ownName | placeholder => cases h

theorem Atom.opensFree_chars {atom : Atom} (h : atom.opensFree = true) (rest : List Char) :
    OpensFree (atom.chars setting ++ rest) := by
  cases atom with
  | fixed text | verbatim text =>
    intro c hc
    simp only [opensFree, Option.any_eq_true] at h
    obtain ⟨d, hd, hsep⟩ := h
    rw [Atom.chars, List.head?_append, hd] at hc
    cases hc
    exact hsep
  | number | name | ownName | placeholder => cases h

/-- Atoms that are sound and apart read as their tokens. -/
theorem Atom.read_flatMap {atoms : List Atom} (h : setting.marks.IsReadable)
    (hs : ∀ atom ∈ atoms, atom.Sound) (hapart : atoms.IsChain Apart) :
    setting.marks.read (atoms.flatMap (·.chars setting)) = some (atoms.flatMap (·.tokens)) := by
  induction atoms with
  | nil => rfl
  | cons atom rest ih =>
    obtain ⟨hfirst, hrest⟩ := List.isChain_cons.mp hapart
    simp only [List.forall_mem_cons] at hs
    have hmeet : EndsFree (atom.chars setting) ∨ OpensFree (rest.flatMap (·.chars setting)) := by
      cases rest with
      | nil => exact Or.inr fun c hc => by cases hc
      | cons next rest =>
        rcases hfirst next rfl with hend | hopen
        · exact Or.inl (endsFree_chars hend)
        · exact Or.inr (opensFree_chars hopen _)
    rw [List.flatMap_cons, Marks.read_append h (hs.1.read h) hmeet, ih hs.2 hrest]
    rfl

/-! ### Pieces -/

theorem Marks.read_space (text : List Char) (h : setting.marks.IsReadable) :
    setting.marks.read (' ' :: text) = setting.marks.read text := by
  have hopen := (h.ne_quotes (c := ' ') rfl).1
  rw [read, readFrom, step, start, if_neg hopen, if_neg (h.ne_mark rfl), if_pos rfl]
  exact Option.map_id_apply

theorem Marks.read_mark {c : Char} (hc : c ∈ [')', ',', ';']) (h : setting.marks.IsReadable) :
    setting.marks.read [c] = some [.mark c] := by
  have hseparator : isSeparator c = true ∧ c ≠ ' ' := by
    simp only [List.mem_cons, List.not_mem_nil, or_false] at hc
    rcases hc with rfl | rfl | rfl <;> decide
  obtain ⟨hword, hquote⟩ := isSeparator_spec hseparator.1
  rw [read, readFrom, step, start, if_neg (h.ne_quotes hquote).1, if_neg (h.ne_mark hseparator.1),
    if_neg hseparator.2, hword]
  rfl

/-- After a text that is read as it stands, a piece adds its tokens. -/
theorem Piece.Sound.read_after {piece : Piece} (hs : piece.Sound) (h : setting.marks.IsReadable)
    (ht : setting.marks.read text.reverse = some ts) :
    setting.marks.read (piece.after setting text).reverse = some (ts ++ piece.tokens) := by
  cases piece with
  | mark c =>
    have hopen : OpensFree [c] := by
      rintro d ⟨⟩
      simp only [Sound, List.mem_cons, List.not_mem_nil, or_false] at hs
      rcases hs with rfl | rfl | rfl <;> rfl
    rw [Piece.after, List.reverse_cons, Marks.read_append h ht (Or.inr hopen), Marks.read_mark hs h]
    rfl
  | token atoms =>
    have hatoms := Atom.read_flatMap h hs.1 hs.2
    cases hcs : atoms.flatMap (·.chars setting) with
    | nil =>
      rw [hcs] at hatoms
      rw [Piece.after, hcs, Piece.tokens, ← Option.some.inj hatoms, List.append_nil]
      exact ht
    | cons c cs =>
      rw [hcs] at hatoms
      -- The gap is empty only behind a separator, and else it is a space that separates.
      have hread : setting.marks.read ((gap text).reverse ++ c :: cs) = some (atoms.flatMap (·.tokens)) ∧
          (EndsFree text.reverse ∨ OpensFree ((gap text).reverse ++ c :: cs)) := by
        cases text with
        | nil => exact ⟨hatoms, Or.inl fun d hd => by cases hd⟩
        | cons last text =>
          by_cases hl : last = '(' ∨ last = ' '
          · refine ⟨by simpa [gap, hl] using hatoms, Or.inl fun d hd => ?_⟩
            simp only [List.getLast?_reverse, List.head?_cons, Option.mem_def, Option.some.injEq] at hd
            subst hd
            rcases hl with rfl | rfl <;> rfl
          · rw [show gap (last :: text) = [' '] by simp [gap, hl]]
            exact ⟨(Marks.read_space _ h).trans hatoms, Or.inr fun d hd => by cases hd; rfl⟩
      rw [Piece.after, hcs]
      simp only [List.reverse_append, List.reverse_reverse, List.append_assoc]
      rw [Marks.read_append h ht hread.2, hread.1]
      rfl

theorem Sql.read_onto {sql : Sql} (hs : sql.Sound) (h : setting.marks.IsReadable)
    (ht : setting.marks.read text.reverse = some ts) :
    setting.marks.read (sql.onto setting text).reverse = some (ts ++ sql.tokens) := by
  induction sql generalizing text ts with
  | nil => simpa [onto, tokens] using ht
  | cons piece sql ih =>
    have hs := List.forall_mem_cons.mp hs
    simpa [onto, tokens] using ih hs.2 (hs.1.read_after h ht)

/-- The text of sound pieces reads as the tokens of the pieces. -/
theorem Sql.Sound.read_render {sql : Sql} (hs : sql.Sound) (h : setting.marks.IsReadable) :
    setting.marks.read (sql.render setting).toList = some sql.tokens := by
  have hread : setting.marks.read (sql.onto setting []).reverse = some ([] ++ sql.tokens) :=
    read_onto hs h rfl
  simpa [render, chars] using hread

theorem Sql.read_render {sql : Sql} (hs : sql.Sound) (h : setting.marks.IsStandard) :
    setting.marks.read (sql.render setting).toList = some sql.tokens :=
  hs.read_render h.isReadable

end Reading

namespace Sql
variable {sql : Sql}

theorem Sound.isKnown (hs : sql.Sound) : ∀ t ∈ sql.tokens, t.IsKnown := by
  intro t ht
  obtain ⟨piece, hpiece, ht⟩ := List.mem_flatMap.mp ht
  have := hs piece hpiece
  cases piece with
  | mark c =>
    cases List.mem_singleton.mp ht
    simp only [Piece.Sound, List.mem_cons, List.not_mem_nil, or_false] at this
    rcases this with rfl | rfl | rfl <;> rfl
  | token atoms =>
    obtain ⟨atom, hatom, ht⟩ := List.mem_flatMap.mp ht
    exact (this.1 atom hatom).isKnown t ht

/-- The parameters that an engine reads are those of the atoms. -/
theorem Sound.filterMap_tokens (hs : sql.Sound) :
    sql.tokens.filterMap (·.placeholder?) = sql.placeholders := by
  rw [tokens, placeholders, List.filterMap_flatMap]
  refine List.flatMap_congr fun piece hpiece => ?_
  have := hs piece hpiece
  cases piece with
  | mark c => rfl
  | token atoms =>
    rw [Piece.tokens, Piece.placeholders, Atom.placeholders, List.filterMap_flatMap,
      List.filterMap_eq_flatMap_toList]
    exact List.flatMap_congr fun atom hatom => (this.1 atom hatom).placeholders

end Sql

end CrudSql

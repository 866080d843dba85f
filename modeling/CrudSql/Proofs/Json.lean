import CrudSql.Json.Read
import CrudSql.Json.Write
import Mathlib.Data.List.Forall2

/-! JSON texts that are written and read again. A value of texts and of whole numbers without a sign is the
    one that is read from its text, in every layout that only adds white space. -/

namespace CrudSql

/-! ### Numbers -/

namespace NumberLiteral
variable {n : Nat}

theorem map_digitChar (n : Nat) : (ofNat n).whole.map Nat.digitChar = Nat.toDigits 10 n := by
  rw [ofNat, List.map_map]
  refine (List.map_congr_left fun c hc => ?_).trans (List.map_id _)
  have hdigit : 48 ≤ c.toNat ∧ c.toNat ≤ 57 :=
    Char.isDigit_iff_toNat.mp (Nat.isDigit_of_mem_toDigits (by decide) (by decide) hc)
  have hchar : (Nat.digitChar (c.toNat - 48)).toNat = c.toNat := by
    rw [Nat.toNat_digitChar_of_lt_ten (by omega)]
    omega
  exact Char.toNat_inj.mp hchar

theorem digitsValue_ofNat (n : Nat) : digitsValue (ofNat n).whole = n := by
  have h := Nat.ofDigitChars_ten_toDigits (n := n)
  rw [Nat.ofDigitChars_eq_foldl] at h
  rw [digitsValue, ofNat, List.foldl_map]
  simpa only [Nat.mul_comm 10] using h

theorem int?_ofNat (h : n ≤ maxSignificand) : (ofNat n).int? = some (n : Int) := by
  have hplain : ¬((ofNat n).fraction ≠ [] ∨ (ofNat n).exponent ≠ none) := by
    simp [ofNat]
  rw [int?, if_neg hplain, digitsValue_ofNat]
  exact if_pos h

theorem exists_toDigits_eq (n : Nat) : ∃ c cs, Nat.toDigits 10 n = c :: cs ∧ c.isDigit = true := by
  obtain ⟨c, cs, hcs⟩ := List.exists_cons_of_ne_nil (Nat.toDigits_ne_nil : Nat.toDigits 10 n ≠ [])
  exact ⟨c, cs, hcs, Nat.isDigit_of_mem_toDigits (by decide) (by decide) (hcs ▸ List.mem_cons_self)⟩

/-- Only zero starts with a zero. -/
theorem head?_toDigits (h : n ≠ 0) : (Nat.toDigits 10 n).head? ≠ some '0' := by
  induction n using Nat.strongRecOn with
  | ind n ih =>
    by_cases hn : n < 10
    · rw [Nat.toDigits_of_lt_base hn]
      simpa using h
    · obtain ⟨c, cs, hcs, -⟩ := exists_toDigits_eq (n / 10)
      rw [Nat.toDigits_of_base_le (by decide) (by omega), hcs]
      have hhead := ih (n / 10) (by omega) (by omega)
      rwa [hcs] at hhead

theorem whole_ofNat (n : Nat) :
    ∃ digit digits, (ofNat n).whole = digit :: digits ∧ (digit = 0 → digits = []) := by
  by_cases hn : n = 0
  · subst hn
    exact ⟨0, [], rfl, fun _ => rfl⟩
  · have hhead := head?_toDigits hn
    obtain ⟨c, cs, hcs, hdigit⟩ := exists_toDigits_eq n
    have hle : 48 ≤ c.toNat := (Char.isDigit_iff_toNat.mp hdigit).1
    refine ⟨c.toNat - '0'.toNat, _, by rw [ofNat, hcs]; rfl, fun hzero => absurd ?_ hhead⟩
    have hsub : c.toNat - 48 = 0 := hzero
    have hc : c = '0' := Char.toNat_inj.mp (by change c.toNat = 48; omega)
    rw [hcs, hc]
    rfl

end NumberLiteral

namespace Json
variable {n : Nat} {rest : List Char}

/-- A text that does not carry on a number before it. -/
def StopsNumber (rest : List Char) : Prop :=
  ∀ c ∈ rest.head?, c.isDigit = false ∧ c ≠ '.' ∧ c ≠ 'e' ∧ c ≠ 'E'

theorem toList_literalText (n : Nat) : (literalText (.ofNat n)).toList = Nat.toDigits 10 n := by
  have hdigits := NumberLiteral.map_digitChar n
  simpa [literalText, NumberLiteral.ofNat] using hdigits

theorem digits_append {run : List Char} (hrun : ∀ c ∈ run, c.isDigit = true) (h : StopsNumber rest) :
    digits (run ++ rest) = (run.map fun c => c.toNat - '0'.toNat, rest) := by
  have hnone : rest.takeWhile Char.isDigit = [] ∧ rest.dropWhile Char.isDigit = rest := by
    cases rest with
    | nil => exact ⟨rfl, rfl⟩
    | cons c rest =>
      have hc := (h c rfl).1
      simp [hc]
  rw [digits, List.takeWhile_append_of_pos hrun, List.dropWhile_append_of_pos hrun, hnone.1, hnone.2,
    List.append_nil]

theorem whole?_append (h : StopsNumber rest) :
    whole? (Nat.toDigits 10 n ++ rest) = some ((NumberLiteral.ofNat n).whole, rest) := by
  have hdigits : digits (Nat.toDigits 10 n ++ rest) = ((NumberLiteral.ofNat n).whole, rest) :=
    digits_append (fun c hc => Nat.isDigit_of_mem_toDigits (by decide) (by decide) hc) h
  obtain ⟨digit, run, hwhole, hzero⟩ := NumberLiteral.whole_ofNat n
  rw [whole?, hdigits, hwhole]
  split
  · simp_all
  · simp_all
  · rfl

theorem number?_append (h : StopsNumber rest) :
    number? (Nat.toDigits 10 n ++ rest) = some (.ofNat n, rest) := by
  have hfraction : fraction? rest = some ([], rest) := by
    unfold fraction?
    split
    · exact absurd rfl (h _ rfl).2.1
    · rfl
  have hexponent : exponent? rest = some (none, rest) := by
    unfold exponent?
    split
    · rename_i c rest
      obtain ⟨-, -, hsmall, hcapital⟩ := h c rfl
      simp [hsmall, hcapital]
    · rfl
  obtain ⟨c, cs, hcs, hdigit⟩ := NumberLiteral.exists_toDigits_eq n
  have hsign : c ≠ '-' := by
    rintro rfl
    cases hdigit
  have hwhole := whole?_append (n := n) h
  rw [hcs] at hwhole ⊢
  rw [List.cons_append] at hwhole ⊢
  rw [number?]
  · simp only [hwhole, hfraction, hexponent, Option.bind_eq_bind, Option.bind_some]
    rfl
  · rintro rest' hminus
    exact hsign (List.cons.inj hminus).1

/-! ### Strings -/

theorem hexDigits_control : ∀ n < 32, ∃ a b, Text.hexDigits 4 n = ['0', '0', a, b] ∧
    Text.ofHex? ['0', '0', a, b] = some n := by
  have hall : ∀ n < 32, let a := Nat.digitChar (n / 16); let b := Nat.digitChar (n % 16)
      Text.hexDigits 4 n = ['0', '0', a, b] ∧ Text.ofHex? ['0', '0', a, b] = some n := by
    decide
  exact fun n hn => ⟨_, _, hall n hn⟩

/-- A character is written as a letter that stands for it, as the number of its unit, or as itself. -/
theorem escapeChar_cases (c : Char) :
    (∃ letter, escape? letter = some c ∧ letter ≠ 'u' ∧ escapeChar c = ['\\', letter]) ∨
      (c.toNat < 32 ∧ escapeChar c = '\\' :: 'u' :: Text.hexDigits 4 c.toNat) ∨
        (¬c.toNat < 32 ∧ c ≠ '"' ∧ c ≠ '\\' ∧ escapeChar c = [c]) := by
  unfold escapeChar
  split
  · exact .inl ⟨'"', by subst_vars; exact ⟨rfl, by decide, rfl⟩⟩
  split
  · exact .inl ⟨'\\', by subst_vars; exact ⟨rfl, by decide, rfl⟩⟩
  split
  · exact .inl ⟨'b', by subst_vars; exact ⟨rfl, by decide, rfl⟩⟩
  split
  · exact .inl ⟨'f', by subst_vars; exact ⟨rfl, by decide, rfl⟩⟩
  split
  · exact .inl ⟨'n', by subst_vars; exact ⟨rfl, by decide, rfl⟩⟩
  split
  · exact .inl ⟨'r', by subst_vars; exact ⟨rfl, by decide, rfl⟩⟩
  split
  · exact .inl ⟨'t', by subst_vars; exact ⟨rfl, by decide, rfl⟩⟩
  split
  · exact .inr (.inl ⟨‹_›, rfl⟩)
  · exact .inr (.inr ⟨‹_›, ‹_›, ‹_›, rfl⟩)

theorem stringParts?_letter {c letter : Char} (h : escape? letter = some c) (hu : letter ≠ 'u') :
    stringParts? ('\\' :: letter :: rest) =
      (stringParts? rest).map fun (parts, rest) => (.char c :: parts, rest) := by
  rw [stringParts?, h]
  · cases stringParts? rest <;> rfl
  · exact fun _ _ _ _ _ hletter _ => hu hletter

theorem stringParts?_unit {a b c d : Char} (h : Text.ofHex? [a, b, c, d] = some n) :
    stringParts? ('\\' :: 'u' :: a :: b :: c :: d :: rest) =
      (stringParts? rest).map fun (parts, rest) => (.unit n :: parts, rest) := by
  rw [stringParts?, h]
  cases stringParts? rest <;> rfl

theorem stringParts?_char {c : Char} (hc : ¬c.toNat < 32) (hquote : c ≠ '"') (hslash : c ≠ '\\') :
    stringParts? (c :: rest) = (stringParts? rest).map fun (parts, rest) => (.char c :: parts, rest) := by
  rw [stringParts?, if_neg hc]
  · cases stringParts? rest <;> rfl
  · exact hquote
  · exact fun _ _ _ _ _ hc _ => hslash hc
  · exact fun _ _ hc _ => hslash hc

/-- What is written for a character is read as a part that is the character. -/
theorem stringParts?_escapeChar (c : Char) : ∃ part,
    (∀ rest, stringParts? (escapeChar c ++ rest) =
      (stringParts? rest).map fun (parts, rest) => (part :: parts, rest)) ∧
    ∀ parts, textOf? (part :: parts) = (textOf? parts).map (c :: ·) := by
  obtain ⟨letter, hletter, hu, hchars⟩ | ⟨hcontrol, hchars⟩ | ⟨hc, hquote, hslash, hchars⟩ :=
    escapeChar_cases c
  · exact ⟨.char c, fun rest => by rw [hchars]; exact stringParts?_letter hletter hu, fun parts => rfl⟩
  · obtain ⟨a, b, hdigits, hvalue⟩ := hexDigits_control c.toNat hcontrol
    rw [hdigits] at hchars
    refine ⟨.unit c.toNat, fun rest => by rw [hchars]; exact stringParts?_unit hvalue, fun parts => ?_⟩
    have hleading : ¬(0xd800 ≤ c.toNat ∧ c.toNat < 0xdc00) := by
      omega
    have htrailing : ¬(0xdc00 ≤ c.toNat ∧ c.toNat < 0xe000) := by
      omega
    rw [textOf?.eq_def]
    simp [hleading, htrailing]
  · exact ⟨.char c, fun rest => by rw [hchars]; exact stringParts?_char hc hquote hslash, fun parts => rfl⟩

theorem stringParts?_text (cs rest : List Char) : ∃ parts,
    stringParts? (cs.flatMap escapeChar ++ '"' :: rest) = some (parts, rest) ∧ textOf? parts = some cs := by
  induction cs with
  | nil => exact ⟨[], rfl, rfl⟩
  | cons c cs ih =>
    obtain ⟨parts, hparts, htext⟩ := ih
    obtain ⟨part, hpart, hc⟩ := stringParts?_escapeChar c
    refine ⟨part :: parts, ?_, by rw [hc, htext]; rfl⟩
    rw [List.flatMap_cons, List.append_assoc, hpart, hparts]
    rfl

/-! ### Layouts -/

/-- A layout adds white space alone. -/
structure Layout.IsBlank (layout : Layout) : Prop where
  line : ∀ depth, ∀ c ∈ (layout.line depth).toList, isSpace c = true
  colon : ∃ spaces, layout.colon.toList = ':' :: spaces ∧ ∀ c ∈ spaces, isSpace c = true

theorem Layout.isBlank_indented : Layout.indented.IsBlank where
  line depth c hc := by
    have hc : c = '\n' ∨ (¬2 * depth = 0) ∧ c = ' ' := by
      simpa [indented] using hc
    obtain rfl | ⟨-, rfl⟩ := hc <;> rfl
  colon := ⟨[' '], rfl, by simp [isSpace]⟩

variable {layout : Layout} {depth fuel : Nat} {spaces : List Char} {c : Char}

theorem isSpace_of_isDigit (h : c.isDigit = true) : isSpace c = false := by
  refine Bool.eq_false_iff.mpr fun hspace => ?_
  simp only [isSpace, Bool.or_eq_true, beq_iff_eq] at hspace
  obtain ((rfl | rfl) | rfl) | rfl := hspace <;> cases h

theorem skipSpace_append (h : ∀ c ∈ spaces, isSpace c = true) (cs : List Char) :
    skipSpace (spaces ++ cs) = skipSpace cs :=
  List.dropWhile_append_of_pos h

theorem skipSpace_cons (h : isSpace c = false) (cs : List Char) : skipSpace (c :: cs) = c :: cs := by
  simp [skipSpace, h]

theorem value?_skip (h : ∀ c ∈ spaces, isSpace c = true) (cs : List Char) :
    value? fuel (spaces ++ cs) = value? fuel cs := by
  cases fuel with
  | zero => rfl
  | succ fuel => rw [value?, value?, skipSpace_append h]

theorem items?_skip (h : ∀ c ∈ spaces, isSpace c = true) (cs : List Char) :
    items? fuel (spaces ++ cs) = items? fuel cs := by
  cases fuel with
  | zero => rfl
  | succ fuel => rw [items?, items?, value?_skip h]

theorem members?_skip (h : ∀ c ∈ spaces, isSpace c = true) (cs : List Char) :
    members? fuel (spaces ++ cs) = members? fuel cs := by
  cases fuel with
  | zero => rfl
  | succ fuel => rw [members?, members?, skipSpace_append h]

theorem stopsNumber_append (h : ∀ c ∈ spaces, isSpace c = true) (hr : StopsNumber rest) :
    StopsNumber (spaces ++ rest) := by
  cases spaces with
  | nil => exact hr
  | cons c spaces =>
    rintro _ ⟨⟩
    have hc := h c List.mem_cons_self
    simp only [isSpace, Bool.or_eq_true, beq_iff_eq] at hc
    obtain ((rfl | rfl) | rfl) | rfl := hc <;> decide

/-! ### Values -/

/-- Whole numbers without a sign, texts, and what is made of them. -/
inductive IsPlain : Json → Prop where
  | null : IsPlain null
  | bool (value : Bool) : IsPlain (bool value)
  | number (n : Nat) : IsPlain (ofNat n)
  | text (value : String) : IsPlain (text value)
  | list {items : List Json} (h : ∀ item ∈ items, IsPlain item) : IsPlain (list items)
  | object {members : List (String × Json)} (h : ∀ member ∈ members, IsPlain member.2) : IsPlain (object members)

/-- The characters of a value at a depth. -/
def chars (layout : Layout) (depth : Nat) (json : Json) : List Char :=
  (write layout depth json).flatMap String.toList

/-- The characters of the items after the first one. -/
def itemsChars (layout : Layout) (depth : Nat) (items : List Json) : List Char :=
  (writeItems layout depth items).flatMap String.toList

/-- The characters of the members after the first one. -/
def membersChars (layout : Layout) (depth : Nat) (members : List (String × Json)) : List Char :=
  (writeMembers layout depth members).flatMap String.toList

/-- The characters of a member. -/
def memberChars (layout : Layout) (depth : Nat) (member : String × Json) : List Char :=
  (quotedText member.1).toList ++ (layout.colon.toList ++ chars layout depth member.2)

/-- A value is the one that is read from its text, whatever stands behind it. -/
def IsRead (layout : Layout) (json : Json) : Prop := ∀ depth fuel rest,
  (chars layout depth json).length ≤ fuel → StopsNumber rest →
    value? fuel (chars layout depth json ++ rest) = some (json, rest)

variable {json item : Json} {items : List Json} {member : String × Json} {members : List (String × Json)}

theorem chars_list : chars layout depth (list (item :: items)) =
    '[' :: ((layout.line (depth + 1)).toList ++ (chars layout (depth + 1) item ++
      (itemsChars layout (depth + 1) items ++ ((layout.line depth).toList ++ [']'])))) := by
  simp [chars, itemsChars, write]

theorem chars_object : chars layout depth (object (member :: members)) =
    '\x7b' :: ((layout.line (depth + 1)).toList ++ (memberChars layout (depth + 1) member ++
      (membersChars layout (depth + 1) members ++ ((layout.line depth).toList ++ ['\x7d'])))) := by
  simp [chars, membersChars, memberChars, write]

theorem itemsChars_cons : itemsChars layout depth (item :: items) =
    ',' :: ((layout.line depth).toList ++ (chars layout depth item ++ itemsChars layout depth items)) := by
  simp [chars, itemsChars, writeItems]

theorem membersChars_cons : membersChars layout depth (member :: members) = ',' :: ((layout.line depth).toList ++
    (memberChars layout depth member ++ membersChars layout depth members)) := by
  simp [chars, membersChars, memberChars, writeMembers]

theorem chars_ofNat {n : Nat} : chars layout depth (ofNat n) = Nat.toDigits 10 n := by
  simp [chars, write, ofNat, scalarText, toList_literalText]

/-- A text starts with something that is neither white space nor the end of a list. -/
theorem IsPlain.exists_head (h : IsPlain json) (layout : Layout) (depth : Nat) :
    ∃ c cs, chars layout depth json = c :: cs ∧ isSpace c = false ∧ c ≠ ']' := by
  cases h with
  | null => exact ⟨'n', _, rfl, by decide⟩
  | bool value => cases value <;> exact ⟨_, _, rfl, by decide⟩
  | number n =>
    obtain ⟨c, cs, hcs, hdigit⟩ := NumberLiteral.exists_toDigits_eq n
    refine ⟨c, cs, chars_ofNat.trans hcs, isSpace_of_isDigit hdigit, ?_⟩
    rintro rfl
    cases hdigit
  | text value => exact ⟨'"', _, by simp [chars, write, scalarText, quotedText]; rfl, by decide⟩
  | @list items _ =>
    cases items with
    | nil => exact ⟨'[', _, rfl, by decide⟩
    | cons item items => exact ⟨'[', _, chars_list, by decide⟩
  | @object members _ =>
    cases members with
    | nil => exact ⟨'\x7b', _, rfl, by decide⟩
    | cons member members => exact ⟨'\x7b', _, chars_object, by decide⟩

theorem isRead_null : IsRead layout null := by
  rintro depth (_ | fuel) rest hlength -
  · cases hlength
  · rfl

theorem isRead_bool (value : Bool) : IsRead layout (bool value) := by
  rintro depth (_ | fuel) rest hlength -
  · cases value <;> cases hlength
  · cases value <;> rfl

theorem isRead_text (value : String) : IsRead layout (text value) := by
  intro depth fuel rest hlength _
  obtain ⟨parts, hparts, htext⟩ := stringParts?_text value.toList rest
  have hchars : chars layout depth (text value) ++ rest =
      '"' :: (value.toList.flatMap escapeChar ++ '"' :: rest) := by
    simp [chars, write, scalarText, quotedText]
  cases fuel with
  | zero => simp [chars, write, scalarText, quotedText] at hlength
  | succ fuel =>
    rw [hchars, value?, skipSpace_cons (by decide)]
    simp [hparts, htext]

theorem value?_digit {cs : List Char} (h : c.isDigit = true) :
    value? (fuel + 1) (c :: cs) = (number? (c :: cs)).map fun (literal, rest) => (.number literal, rest) := by
  rw [value?, skipSpace_cons (isSpace_of_isDigit h)]
  split
  case h_1 hcs => cases hcs
  case h_8 => rfl
  all_goals
    cases ‹c :: cs = _›
    cases h

theorem isRead_number (n : Nat) : IsRead layout (ofNat n) := by
  intro depth fuel rest hlength hrest
  obtain ⟨c, cs, hcs, hdigit⟩ := NumberLiteral.exists_toDigits_eq n
  have hnumber := number?_append (n := n) hrest
  rw [chars_ofNat, hcs] at hlength ⊢
  cases fuel with
  | zero => cases hlength
  | succ fuel =>
    rw [hcs, List.cons_append] at hnumber
    rw [List.cons_append, value?_digit hdigit, hnumber]
    rfl

theorem IsRead.chars_ne_nil (h : IsRead layout json) (depth : Nat) : chars layout depth json ≠ [] := by
  intro hnil
  have hnone := h depth 0 [] (by simp [hnil]) (by simp [StopsNumber])
  cases hnone

theorem items?_last {cs : List Char} (hspaces : ∀ c ∈ spaces, isSpace c = true)
    (h : value? fuel cs = some (item, spaces ++ ']' :: rest)) : items? (fuel + 1) cs = some ([item], rest) := by
  have hskip : skipSpace (spaces ++ ']' :: rest) = ']' :: rest := by
    rw [skipSpace_append hspaces, skipSpace_cons (by decide)]
  rw [items?, h]
  simp [hskip]

theorem items?_more {cs : List Char} (h : value? fuel cs = some (item, ',' :: rest)) :
    items? (fuel + 1) cs = (items? fuel rest).map fun (items, rest) => (item :: items, rest) := by
  have hskip : skipSpace (',' :: rest) = ',' :: rest := skipSpace_cons (by decide) _
  rw [items?, h]
  simp only [Option.bind_eq_bind, Option.bind_some, hskip]
  cases items? fuel rest <;> rfl

/-- Items are read one after the other up to the end of the list. -/
theorem items?_chars (hl : layout.IsBlank) (hspaces : ∀ c ∈ spaces, isSpace c = true)
    (h : ∀ i ∈ item :: items, IsRead layout i)
    (hfuel : (chars layout depth item).length + (itemsChars layout depth items).length < fuel) :
    items? fuel (chars layout depth item ++ (itemsChars layout depth items ++ (spaces ++ ']' :: rest))) =
      some (item :: items, rest) := by
  induction items generalizing item fuel with
  | nil =>
    obtain ⟨fuel, rfl⟩ : ∃ n, fuel = n + 1 := ⟨fuel - 1, by omega⟩
    have hend : StopsNumber (spaces ++ ']' :: rest) := stopsNumber_append hspaces (by rintro _ ⟨⟩; decide)
    exact items?_last hspaces (h item List.mem_cons_self depth fuel _ (by omega) hend)
  | cons next items ih =>
    obtain ⟨hitem, hitems⟩ := List.forall_mem_cons.mp h
    have hpos := List.length_pos_iff.mpr (hitem.chars_ne_nil depth)
    rw [itemsChars_cons] at hfuel ⊢
    simp only [List.length_cons, List.length_append] at hfuel
    obtain ⟨fuel, rfl⟩ : ∃ n, fuel = n + 1 := ⟨fuel - 1, by omega⟩
    have hend : StopsNumber (',' :: ((layout.line depth).toList ++ (chars layout depth next ++
        (itemsChars layout depth items ++ (spaces ++ ']' :: rest))))) := by
      rintro _ ⟨⟩
      decide
    simp only [List.cons_append, List.append_assoc]
    rw [items?_more (hitem depth fuel _ (by omega) hend), items?_skip (hl.line depth), ih hitems (by omega)]
    rfl

theorem value?_list {cs cs' : List Char} (hskip : skipSpace cs = c :: cs') (hc : c ≠ ']') :
    value? (fuel + 1) ('[' :: cs) = (items? fuel (c :: cs')).map fun (items, rest) => (list items, rest) := by
  rw [value?, skipSpace_cons (by decide)]
  simp only [hskip]
  split
  · simp_all
  · cases items? fuel (c :: cs') <;> rfl

theorem isRead_list (hl : layout.IsBlank) (hp : ∀ i ∈ items, IsPlain i) (h : ∀ i ∈ items, IsRead layout i) :
    IsRead layout (list items) := by
  intro depth fuel rest hlength _
  cases items with
  | nil =>
    obtain _ | fuel := fuel
    · cases hlength
    · rfl
  | cons item items =>
    obtain ⟨c, cs, hcs, hspace, hc⟩ := (hp item List.mem_cons_self).exists_head layout (depth + 1)
    rw [chars_list] at hlength ⊢
    simp only [List.length_cons, List.length_append, List.length_nil] at hlength
    obtain ⟨fuel, rfl⟩ : ∃ n, fuel = n + 1 := ⟨fuel - 1, by omega⟩
    have hitems : items? fuel (chars layout (depth + 1) item ++ (itemsChars layout (depth + 1) items ++
        ((layout.line depth).toList ++ ']' :: rest))) = some (item :: items, rest) :=
      items?_chars hl (hl.line depth) h (by omega)
    have hskip : skipSpace ((layout.line (depth + 1)).toList ++ (chars layout (depth + 1) item ++
        (itemsChars layout (depth + 1) items ++ ((layout.line depth).toList ++ ']' :: rest)))) =
        chars layout (depth + 1) item ++ (itemsChars layout (depth + 1) items ++
          ((layout.line depth).toList ++ ']' :: rest)) := by
      rw [skipSpace_append (hl.line _), hcs, List.cons_append, skipSpace_cons hspace]
    simp only [List.cons_append, List.append_assoc, List.nil_append]
    rw [hcs, List.cons_append] at hskip hitems
    rw [hcs, List.cons_append, value?_list hskip hc, hitems]
    rfl

/-- What is read for a member: the parts and the text of its key, and its value. -/
def IsReadAs (member : String × Json) (read : (List StringPart × Option (List Char)) × Json) : Prop :=
  read.1.2 = some member.1.toList ∧ read.2 = member.2

/-- After a member the reader goes on behind a comma and stops at the end of the object. -/
theorem members?_member (hl : layout.IsBlank)
    (h : value? fuel (chars layout depth member.2 ++ rest) = some (member.2, rest)) :
    ∃ read, IsReadAs member read ∧
      (∀ next, skipSpace rest = ',' :: next → members? (fuel + 1) (memberChars layout depth member ++ rest) =
        (members? fuel next).map fun (reads, rest) => (read :: reads, rest)) ∧
      ∀ after, skipSpace rest = '\x7d' :: after →
        members? (fuel + 1) (memberChars layout depth member ++ rest) = some ([read], after) := by
  obtain ⟨gap, hcolon, hgap⟩ := hl.colon
  obtain ⟨parts, hparts, htext⟩ :=
    stringParts?_text member.1.toList (':' :: (gap ++ (chars layout depth member.2 ++ rest)))
  have hchars : memberChars layout depth member ++ rest = '"' :: (member.1.toList.flatMap escapeChar ++
      '"' :: ':' :: (gap ++ (chars layout depth member.2 ++ rest))) := by
    simp [memberChars, quotedText, hcolon]
  have hcolon : skipSpace (':' :: (gap ++ (chars layout depth member.2 ++ rest))) =
      ':' :: (gap ++ (chars layout depth member.2 ++ rest)) := skipSpace_cons (by decide) _
  refine ⟨((parts, textOf? parts), member.2), ⟨htext, rfl⟩, fun next hnext => ?_, fun after hafter => ?_⟩
  · rw [hchars, members?, skipSpace_cons (by decide)]
    simp only [hparts, hcolon, value?_skip hgap, h, hnext, Option.bind_eq_bind, Option.bind_some]
    cases members? fuel next <;> rfl
  · rw [hchars, members?, skipSpace_cons (by decide)]
    simp only [hparts, hcolon, value?_skip hgap, h, hafter, Option.bind_eq_bind, Option.bind_some]
    rfl

/-- Members are read one after the other up to the end of the object. -/
theorem members?_chars (hl : layout.IsBlank) (hspaces : ∀ c ∈ spaces, isSpace c = true)
    (h : ∀ m ∈ member :: members, IsRead layout m.2)
    (hfuel : (memberChars layout depth member).length + (membersChars layout depth members).length < fuel) :
    ∃ reads, List.Forall₂ IsReadAs (member :: members) reads ∧
      members? fuel (memberChars layout depth member ++ (membersChars layout depth members ++
        (spaces ++ '\x7d' :: rest))) = some (reads, rest) := by
  have hshorter : ∀ m : String × Json, (chars layout depth m.2).length < (memberChars layout depth m).length :=
    fun m => by simp [memberChars, quotedText]; omega
  induction members generalizing member fuel with
  | nil =>
    have hlt := hshorter member
    obtain ⟨fuel, rfl⟩ : ∃ n, fuel = n + 1 := ⟨fuel - 1, by omega⟩
    have hend : StopsNumber (spaces ++ '\x7d' :: rest) := stopsNumber_append hspaces (by rintro _ ⟨⟩; decide)
    have hvalue := h member List.mem_cons_self depth fuel _ (by omega) hend
    obtain ⟨read, hread, -, hlast⟩ := members?_member hl hvalue
    refine ⟨[read], .cons hread .nil, hlast rest ?_⟩
    rw [skipSpace_append hspaces, skipSpace_cons (by decide)]
  | cons next members ih =>
    obtain ⟨hmember, hmembers⟩ := List.forall_mem_cons.mp h
    have hlt := hshorter member
    rw [membersChars_cons] at hfuel ⊢
    simp only [List.length_cons, List.length_append] at hfuel
    obtain ⟨fuel, rfl⟩ : ∃ n, fuel = n + 1 := ⟨fuel - 1, by omega⟩
    have hnext : (memberChars layout depth next).length + (membersChars layout depth members).length < fuel := by
      omega
    obtain ⟨reads, hreads, hrest⟩ := ih hmembers hnext
    have hend : StopsNumber (',' :: ((layout.line depth).toList ++ (memberChars layout depth next ++
        (membersChars layout depth members ++ (spaces ++ '\x7d' :: rest))))) := by
      rintro _ ⟨⟩
      decide
    obtain ⟨read, hread, hmore, -⟩ := members?_member hl (hmember depth fuel _ (by omega) hend)
    refine ⟨read :: reads, .cons hread hreads, ?_⟩
    simp only [List.cons_append, List.append_assoc]
    rw [hmore _ (skipSpace_cons (by decide) _), members?_skip (hl.line depth), hrest]
    rfl

/-- The texts of the keys and the values of what is read are those of the members. -/
theorem members_of_reads {reads} (h : List.Forall₂ IsReadAs members reads) :
    reads.find? (·.1.2.isNone) = none ∧
      (reads.map fun ((_, key), value) => (String.ofList (key.getD []), value)) = members := by
  induction h with
  | nil => exact ⟨rfl, rfl⟩
  | @cons member read members reads hread _ ih =>
    obtain ⟨⟨parts, key⟩, value⟩ := read
    obtain ⟨rfl, rfl⟩ : key = some member.1.toList ∧ value = member.2 := hread
    refine ⟨by simpa using ih.1, ?_⟩
    rw [List.map_cons, ih.2]
    simp

theorem value?_object {cs cs' : List Char} {reads} (hskip : skipSpace cs = c :: cs') (hc : c ≠ '\x7d')
    (h : members? fuel (c :: cs') = some (reads, rest)) (hreads : List.Forall₂ IsReadAs members reads) :
    value? (fuel + 1) ('\x7b' :: cs) = some (object members, rest) := by
  obtain ⟨hwhole, hsame⟩ := members_of_reads hreads
  rw [value?, skipSpace_cons (by decide)]
  simp only [hskip]
  split
  · simp_all
  · simp only [h, hwhole, Option.bind_eq_bind, Option.bind_some]
    rw [hsame]
    rfl

theorem isRead_object (hl : layout.IsBlank) (h : ∀ m ∈ members, IsRead layout m.2) :
    IsRead layout (object members) := by
  intro depth fuel rest hlength _
  cases members with
  | nil =>
    obtain _ | fuel := fuel
    · cases hlength
    · rfl
  | cons member members =>
    rw [chars_object] at hlength ⊢
    simp only [List.length_cons, List.length_append, List.length_nil] at hlength
    obtain ⟨fuel, rfl⟩ : ∃ n, fuel = n + 1 := ⟨fuel - 1, by omega⟩
    have hfuel : (memberChars layout (depth + 1) member).length +
        (membersChars layout (depth + 1) members).length < fuel := by
      omega
    obtain ⟨reads, hreads, hmembers⟩ := members?_chars hl (hl.line depth) h hfuel
    obtain ⟨tail, htail⟩ : ∃ tail, memberChars layout (depth + 1) member = '"' :: tail :=
      ⟨_, by simp [memberChars, quotedText]; rfl⟩
    rw [htail, List.cons_append] at hmembers
    simp only [htail, List.cons_append, List.append_assoc, List.nil_append]
    refine value?_object ?_ (by decide) hmembers hreads
    rw [skipSpace_append (hl.line _), skipSpace_cons (by decide)]

/-- A plain value is the one that is read from its text, in any layout that adds white space alone. -/
theorem IsPlain.isRead (hl : layout.IsBlank) (h : IsPlain json) : IsRead layout json := by
  induction h with
  | null => exact isRead_null
  | bool value => exact isRead_bool value
  | number n => exact isRead_number n
  | text value => exact isRead_text value
  | list h ih => exact isRead_list hl h ih
  | object _ ih => exact isRead_object hl ih

theorem IsPlain.read?_write (hl : layout.IsBlank) (h : IsPlain json) (depth : Nat) :
    read? (String.join (write layout depth json)) = some json := by
  have hchars : (String.join (write layout depth json)).toList = chars layout depth json := String.toList_join
  have hlength : (String.join (write layout depth json)).length = (chars layout depth json).length := by
    rw [← hchars, String.length_toList]
  have hvalue := h.isRead hl depth (2 * (chars layout depth json).length + 2) [] (by omega) (by simp [StopsNumber])
  rw [List.append_nil] at hvalue
  rw [read?, hchars, hlength, hvalue]
  rfl

theorem IsPlain.read?_indented (h : IsPlain json) : read? json.indented = some json :=
  h.read?_write Layout.isBlank_indented 0

end Json

end CrudSql

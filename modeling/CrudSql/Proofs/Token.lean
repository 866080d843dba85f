import CrudSql.ParameterName
import CrudSql.Quote

/-! Scripts as an engine reads them. A reader goes through a text character by character and splits it
    into tokens: a name between quotes is one token whatever it holds, and spaces only separate. Two
    texts read one after the other are read as each alone, if a separator stands where they meet. -/

namespace CrudSql

/-- The characters by which an engine tells names and parameters. -/
structure Marks where
  openingQuote : Char
  closingQuote : Char
  parameterMark : Char
  deriving DecidableEq, Repr

/-- The parts into which an engine splits a text. -/
inductive Token where
  /-- A name between quotes; a closing quote in it was written twice. -/
  | name (text : String)
  /-- A parameter: the mark and the letters, digits and underscores behind it. -/
  | placeholder (text : String)
  /-- A run of letters, digits and underscores. -/
  | word (text : String)
  | mark (char : Char)
  deriving DecidableEq, Repr

/-- What a reader is in the middle of, with the characters so far, last character first. -/
inductive Pending where
  | nothing
  | word (read : List Char)
  | placeholder (read : List Char)
  /-- Between quotes. -/
  | name (read : List Char)
  /-- Behind a closing quote, which may be the first of two. -/
  | closed (read : List Char)
  deriving DecidableEq, Repr

namespace Pending

/-- The tokens that are complete if nothing follows; none if a quote is still open. -/
def tokens? : Pending → Option (List Token)
  | nothing => some []
  | word read => some [.word (String.ofList read.reverse)]
  | placeholder read => some [.placeholder (String.ofList read.reverse)]
  | name _ => none
  | closed read => some [.name (String.ofList read.reverse)]

end Pending

namespace Marks

/-- What a character begins that does not go on with anything before it. -/
def start (marks : Marks) (c : Char) : List Token × Pending :=
  if c = marks.openingQuote then ([], .name [])
  else if c = marks.parameterMark then ([], .placeholder [])
  else if c = ' ' then ([], .nothing)
  else if isParameterChar c then ([], .word [c])
  else ([.mark c], .nothing)

/-- The tokens that are complete after one more character, and what is pending then. -/
def step (marks : Marks) : Pending → Char → List Token × Pending
  | .nothing, c => marks.start c
  | .word read, c =>
    if isParameterChar c then ([], .word (c :: read))
    else (.word (String.ofList read.reverse) :: (marks.start c).1, (marks.start c).2)
  | .placeholder read, c =>
    if isParameterChar c then ([], .placeholder (c :: read))
    else (.placeholder (String.ofList read.reverse) :: (marks.start c).1, (marks.start c).2)
  | .name read, c =>
    if c = marks.closingQuote then ([], .closed read) else ([], .name (c :: read))
  | .closed read, c =>
    if c = marks.closingQuote then ([], .name (c :: read))
    else (.name (String.ofList read.reverse) :: (marks.start c).1, (marks.start c).2)

/-- The tokens of a text, given what is pending before it. -/
def readFrom (marks : Marks) : Pending → List Char → Option (List Token)
  | pending, [] => pending.tokens?
  | pending, c :: rest =>
    (marks.readFrom (marks.step pending c).2 rest).map ((marks.step pending c).1 ++ ·)

/-- The tokens of a text, unless it ends between quotes. -/
def read (marks : Marks) (text : List Char) : Option (List Token) := marks.readFrom .nothing text

/-- The quotes are one of the known pairs, and parameters are marked by `@`. -/
def IsStandard (marks : Marks) : Prop :=
  (marks.openingQuote, marks.closingQuote) ∈ quotePairs ∧ marks.parameterMark = '@'

end Marks

/-! ### Separators -/

/-- The characters between words. -/
def separators : List Char := [' ', '(', ')', ',', ';', '.', '=', '<', '>', '*']

/-- Whether a character stands between words. -/
def isSeparator (c : Char) : Bool := separators.contains c

/-- The quotes are one of the known pairs, and parameters are marked by a character that stands neither in a
    word nor between words, and that is no quote. -/
structure Marks.IsReadable (marks : Marks) : Prop where
  quotes : (marks.openingQuote, marks.closingQuote) ∈ quotePairs
  notInWord : isParameterChar marks.parameterMark = false
  notQuote : isQuote marks.parameterMark = false
  notSeparator : isSeparator marks.parameterMark = false

theorem Marks.IsStandard.isReadable {marks : Marks} (h : marks.IsStandard) : marks.IsReadable where
  quotes := h.1
  notInWord := by
    rw [h.2]
    decide
  notQuote := by
    rw [h.2]
    decide
  notSeparator := by
    rw [h.2]
    decide

/-- A text that is empty or begins with a separator. -/
def OpensFree (text : List Char) : Prop := ∀ c ∈ text.head?, isSeparator c = true

/-- A text that is empty or ends with a separator. -/
def EndsFree (text : List Char) : Prop := ∀ c ∈ text.getLast?, isSeparator c = true

section Reading
variable {marks : Marks} {pending : Pending} {c : Char} {text rest : List Char} {ts us : List Token}

theorem isSeparator_spec (h : isSeparator c = true) : isParameterChar c = false ∧ isQuote c = false := by
  have hc := List.contains_iff_mem.mp h
  simp only [separators, List.mem_cons, List.not_mem_nil, or_false] at hc
  rcases hc with rfl | rfl | rfl | rfl | rfl | rfl | rfl | rfl | rfl | rfl
  all_goals exact ⟨rfl, rfl⟩

theorem Marks.IsReadable.ne_quotes (h : marks.IsReadable) (hc : isQuote c = false) :
    c ≠ marks.openingQuote ∧ c ≠ marks.closingQuote := by
  simp only [isQuote, List.any_eq_false] at hc
  have := hc _ h.quotes
  simp only [Bool.or_eq_true, beq_iff_eq, not_or] at this
  exact ⟨fun e => this.1 e.symm, fun e => this.2 e.symm⟩

theorem Marks.IsReadable.ne_mark_of_word (h : marks.IsReadable) (hc : isParameterChar c = true) :
    c ≠ marks.parameterMark := by
  rintro rfl
  rw [h.notInWord] at hc
  cases hc

theorem Marks.IsReadable.ne_mark (h : marks.IsReadable) (hc : isSeparator c = true) :
    c ≠ marks.parameterMark := by
  rintro rfl
  rw [h.notSeparator] at hc
  cases hc

/-- A separator completes what is pending, unless that is a name within quotes, and begins anew. -/
theorem Marks.step_separator (h : marks.IsReadable) (hc : isSeparator c = true)
    (hp : pending.tokens? = some ts) : marks.step pending c = (ts ++ (marks.start c).1, .nothing) := by
  obtain ⟨hparam, hquote⟩ := isSeparator_spec hc
  obtain ⟨hopen, hclose⟩ := h.ne_quotes hquote
  have hmark := h.ne_mark hc
  have hstart : marks.start c = ((marks.start c).1, .nothing) := by
    simp only [start, hopen, hmark, hparam, if_false, Bool.false_eq_true]
    split <;> rfl
  cases pending with
  | name => cases hp
  | nothing =>
    cases hp
    exact hstart
  | word read | placeholder read =>
    cases hp
    rw [step, hparam, hstart]
    rfl
  | closed read =>
    cases hp
    rw [step, if_neg hclose, hstart]
    rfl

theorem Marks.readFrom_append_of_opens (h : marks.IsReadable) (hrest : OpensFree rest)
    (ht : marks.readFrom pending text = some ts) :
    marks.readFrom pending (text ++ rest) = (marks.read rest).map (ts ++ ·) := by
  induction text generalizing pending ts with
  | nil =>
    cases rest with
    | nil => simpa [readFrom, read, Pending.tokens?] using ht
    | cons c rest =>
      have hc : isSeparator c = true := hrest c rfl
      have hfirst : marks.step .nothing c = ([] ++ (marks.start c).1, .nothing) :=
        step_separator h hc rfl
      rw [List.nil_append, readFrom, step_separator h hc ht, read, readFrom, hfirst, Option.map_map]
      simp [Function.comp_def]
  | cons c text ih =>
    obtain ⟨us, hus, rfl⟩ := Option.map_eq_some_iff.mp ht
    rw [List.cons_append, readFrom, ih hus, Option.map_map]
    simp [Function.comp_def]

theorem Marks.readFrom_append_of_ends (h : marks.IsReadable) (hend : EndsFree text)
    (hpending : text = [] → pending = .nothing) (ht : marks.readFrom pending text = some ts) :
    marks.readFrom pending (text ++ rest) = (marks.read rest).map (ts ++ ·) := by
  induction text generalizing pending ts with
  | nil =>
    obtain rfl := hpending rfl
    cases ht
    simp [read]
  | cons c text ih =>
    obtain ⟨us, hus, rfl⟩ := Option.map_eq_some_iff.mp ht
    have hnext : text = [] → (marks.step pending c).2 = .nothing := by
      rintro rfl
      have hc : isSeparator c = true := hend c rfl
      cases hp : pending.tokens? with
      | some => rw [step_separator h hc hp]
      | none =>
        -- A separator within quotes leaves the name open, so the text would not be read.
        cases pending <;> cases hp
        rw [step, if_neg (h.ne_quotes (isSeparator_spec hc).2).2] at hus
        cases hus
    have hend' : EndsFree text := by
      cases text with
      | nil => exact fun _ hc => by cases hc
      | cons => exact fun c hc => hend c (by simpa using hc)
    rw [List.cons_append, readFrom, ih hend' hnext hus, Option.map_map]
    simp [Function.comp_def]

/-- Two texts with a separator where they meet are read as each alone. -/
theorem Marks.read_append (h : marks.IsReadable) (ht : marks.read text = some ts)
    (hmeet : EndsFree text ∨ OpensFree rest) :
    marks.read (text ++ rest) = (marks.read rest).map (ts ++ ·) := by
  rcases hmeet with hend | hopen
  · exact readFrom_append_of_ends h hend (fun _ => rfl) ht
  · exact readFrom_append_of_opens h hopen ht

/-! ### Single tokens -/

theorem isParameterChar_ne (hc : isParameterChar c = true) : c ≠ ' ' ∧ isQuote c = false := by
  refine ⟨?_, Bool.eq_false_iff.mpr fun hq => ?_⟩
  · rintro rfl
    cases hc
  · simp only [isQuote, quotePairs, List.any_cons, List.any_nil, Bool.or_eq_true, beq_iff_eq] at hq
    rcases hq with (rfl | rfl) | (rfl | rfl) | (rfl | rfl) | hq <;> cases ‹_›

theorem Marks.readFrom_name (read name : List Char) :
    marks.readFrom (.name read) (doubled marks.closingQuote name ++ [marks.closingQuote]) =
      some [.name (String.ofList (read.reverse ++ name))] := by
  induction name generalizing read with
  | nil => simp [doubled, readFrom, step, Pending.tokens?]
  | cons c name ih =>
    have ih' := ih (c :: read)
    by_cases hc : c = marks.closingQuote
    · subst hc
      simpa [doubled, readFrom, step] using ih'
    · simpa [doubled, readFrom, step, hc] using ih'

/-- A name between quotes is read back, whatever characters it has. -/
theorem Marks.read_quoteChars (name : String) :
    marks.read (quoteChars marks.openingQuote marks.closingQuote name.toList) = some [.name name] := by
  have hrest : marks.readFrom (.name []) (doubled marks.closingQuote name.toList ++ [marks.closingQuote]) =
      some [.name name] := by
    simpa using readFrom_name [] name.toList
  simp [read, quoteChars, readFrom, step, start, hrest]

theorem Marks.readFrom_word (read word : List Char) (hw : ∀ c ∈ word, isParameterChar c = true) :
    marks.readFrom (.word read) word = some [.word (String.ofList (read.reverse ++ word))] := by
  induction word generalizing read with
  | nil => simp [readFrom, Pending.tokens?]
  | cons c word ih =>
    simp only [List.forall_mem_cons] at hw
    simp [readFrom, step, hw.1, ih (c :: read) hw.2]

theorem Marks.readFrom_placeholder (read name : List Char) (hn : ∀ c ∈ name, isParameterChar c = true) :
    marks.readFrom (.placeholder read) name =
      some [.placeholder (String.ofList (read.reverse ++ name))] := by
  induction name generalizing read with
  | nil => simp [readFrom, Pending.tokens?]
  | cons c name ih =>
    simp only [List.forall_mem_cons] at hn
    simp [readFrom, step, hn.1, ih (c :: read) hn.2]

theorem Marks.read_word (h : marks.IsReadable) {word : String} (hne : word.toList ≠ [])
    (hw : ∀ c ∈ word.toList, isParameterChar c = true) :
    marks.read word.toList = some [.word word] := by
  obtain ⟨c, rest, hcs⟩ := List.exists_cons_of_ne_nil hne
  rw [hcs] at hw
  simp only [List.forall_mem_cons] at hw
  obtain ⟨hspace, hquote⟩ := isParameterChar_ne hw.1
  have hmark := h.ne_mark_of_word hw.1
  have hrest : marks.readFrom (.word [c]) rest = some [.word word] := by
    rw [readFrom_word [c] rest hw.2, List.reverse_singleton, List.singleton_append, ← hcs,
      String.ofList_toList]
  rw [hcs, read, readFrom, step, start, if_neg (h.ne_quotes hquote).1, if_neg hmark, if_neg hspace,
    if_pos hw.1, hrest]
  rfl

theorem Marks.read_placeholder (h : marks.IsReadable) {name : String}
    (hn : ∀ c ∈ name.toList, isParameterChar c = true) :
    marks.read (marks.parameterMark :: name.toList) = some [.placeholder name] := by
  have hrest : marks.readFrom (.placeholder []) name.toList = some [.placeholder name] := by
    rw [readFrom_placeholder [] name.toList hn, List.reverse_nil, List.nil_append, String.ofList_toList]
  rw [read, readFrom, step, start, if_neg (h.ne_quotes h.notQuote).1, if_pos rfl, hrest]
  rfl

/-! ### Texts without quotes and parameters -/

section Plain
variable {other : Marks}

theorem Marks.start_of_plain (h : marks.IsReadable) (hc : isParameterChar c = true ∨ isSeparator c = true) :
    marks.start c = if c = ' ' then ([], .nothing)
      else if isParameterChar c then ([], .word [c]) else ([.mark c], .nothing) := by
  have hquote : isQuote c = false :=
    hc.elim (fun hword => (isParameterChar_ne hword).2) fun hseparator => (isSeparator_spec hseparator).2
  rw [start, if_neg (h.ne_quotes hquote).1, if_neg (hc.elim h.ne_mark_of_word h.ne_mark)]

/-- Outside names and parameters, words and what stands between them are read alike under all marks. -/
theorem Marks.readFrom_of_plain (h : marks.IsReadable) (ho : other.IsReadable)
    (hp : pending = .nothing ∨ ∃ read, pending = .word read)
    (ht : ∀ c ∈ text, isParameterChar c = true ∨ isSeparator c = true) :
    marks.readFrom pending text = other.readFrom pending text := by
  induction text generalizing pending with
  | nil => rfl
  | cons c text ih =>
    obtain ⟨hc, htext⟩ := List.forall_mem_cons.mp ht
    have hstart : marks.start c = other.start c := (start_of_plain h hc).trans (start_of_plain ho hc).symm
    have hbegun : (other.start c).2 = .nothing ∨ ∃ read, (other.start c).2 = .word read := by
      rw [start_of_plain ho hc]
      split
      · exact Or.inl rfl
      · split
        · exact Or.inr ⟨_, rfl⟩
        · exact Or.inl rfl
    have hstep : marks.step pending c = other.step pending c ∧
        ((other.step pending c).2 = .nothing ∨ ∃ read, (other.step pending c).2 = .word read) := by
      rcases hp with rfl | ⟨read, rfl⟩
      · exact ⟨hstart, hbegun⟩
      · rw [step, step, hstart]
        split
        · exact ⟨rfl, Or.inr ⟨_, rfl⟩⟩
        · exact ⟨rfl, hbegun⟩
    rw [readFrom, readFrom, hstep.1, ih hstep.2 htext]

theorem Marks.read_of_plain (h : marks.IsReadable) (ho : other.IsReadable)
    (ht : ∀ c ∈ text, isParameterChar c = true ∨ isSeparator c = true) : marks.read text = other.read text :=
  readFrom_of_plain h ho (Or.inl rfl) ht

end Plain

end Reading

end CrudSql

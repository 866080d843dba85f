import CrudSql.Proofs.Quote
import CrudSql.Proofs.Token.Phrase
import CrudSql.Proofs.Token.Sql
import CrudSql.Proofs.Predicate.Canonical

/-! How a condition is spelled: the quoted column, a sign that no other sign begins with, and the parameters
    behind it. Where the text of a condition is read along with its parameters, it is clear where the condition
    ends, even before a text that would go on with it. -/

namespace CrudSql

/-- How a test is spelled. -/
inductive Form where
  | null (negated : Bool)
  | compare (comparison : Comparison)
  | range (negated : Bool)
  | array (negated : Bool)
  | values (negated : Bool)
  | inline (negated : Bool)
  deriving DecidableEq

namespace Form

/-- Every form there is. -/
def all : List Form :=
  [null false, null true, compare .equal, compare .notEqual, compare .less, compare .greater,
   compare .lessOrEqual, compare .greaterOrEqual, compare .like, compare .notLike, range false, range true,
   array false, array true, values false, values true, inline false, inline true]

theorem mem_all (form : Form) : form ∈ all := by
  cases form with
  | compare comparison => cases comparison <;> simp [all]
  | null negated | range negated | array negated | values negated | inline negated =>
    cases negated <;> simp [all]

/-- What stands behind the column. -/
def sign : Form → String
  | null negated => if negated then " IS NOT NULL" else " IS NULL"
  | compare comparison => " " ++ comparison.sql ++ " @"
  | range negated => " " ++ (Operator.range negated).sql ++ " @"
  | array negated => if negated then " <> ALL(@" else " = ANY(@"
  | values negated => " " ++ (Operator.among negated).sql ++ " (SELECT "
  | inline negated => " " ++ (Operator.among negated).sql ++ " (@"

/-- The column of the table of values. -/
def valueColumn (setting : Setting) : String := String.ofList (Test.valueColumn.chars setting)

/-- What stands before the first parameter. -/
def front (setting : Setting) : Form → String
  | values _ => valueColumn setting ++ " FROM (VALUES (@"
  | _ => ""

/-- What stands between two parameters. -/
def between : Form → String
  | range _ => " AND @"
  | values _ => "), (@"
  | inline _ => ", @"
  | _ => ""

/-- What stands behind the last parameter. -/
def back (setting : Setting) : Form → String
  | array _ | inline _ => ")"
  | values _ => ")) AS Q (" ++ valueColumn setting ++ "))"
  | _ => ""

/-- The number of parameters, unless each value of a list has one. -/
def arity : Form → Option Nat
  | null _ => some 0
  | compare _ => some 1
  | range _ => some 2
  | array _ => some 1
  | values _ | inline _ => none

/-- The names of parameters with a text between. -/
def joined (between : String) : List (String × Value) → List Char
  | [] => []
  | first :: rest => first.1.toList ++ rest.flatMap fun next => between.toList ++ next.1.toList

/-- The text behind the column, with the given parameters. -/
def chars (setting : Setting) (form : Form) (bindings : List (String × Value)) : List Char :=
  form.sign.toList ++ ((form.front setting).toList ++
    (joined form.between bindings ++ (form.back setting).toList))

/-- As many parameters as the form has. -/
def Fits (form : Form) (bindings : List (String × Value)) : Prop :=
  match form.arity with
  | some n => bindings.length = n
  | none => bindings ≠ []

variable {setting : Setting} {f g : Form} {b c u v : List (String × Value)} {x y : List Char}

/-! ### Signs -/

theorem eq_of_prefix_sign (h : f.sign.toList <+: g.sign.toList) : f = g := by
  have hall : ∀ f ∈ all, ∀ g ∈ all, f.sign.toList.isPrefixOf g.sign.toList = true → f = g := by decide +kernel
  exact hall f f.mem_all g g.mem_all (List.isPrefixOf_iff_prefix.mpr h)

theorem sign_append_inj (h : f.sign.toList ++ x = g.sign.toList ++ y) : f = g ∧ x = y := by
  have hfg : f = g := by
    rcases List.prefix_or_prefix_of_prefix (List.prefix_append _ x) (h ▸ List.prefix_append _ y) with hf | hg
    · exact eq_of_prefix_sign hf
    · exact (eq_of_prefix_sign hg).symm
  subst hfg
  exact ⟨rfl, List.append_cancel_left h⟩

theorem head_sign (f : Form) : f.sign.toList.head? = some ' ' := by
  have hall : ∀ f ∈ all, f.sign.toList.head? = some ' ' := by decide
  exact hall f f.mem_all

theorem head_chars (h : setting.closingQuote ≠ ' ') (f : Form) (b : List (String × Value)) (x : List Char) :
    (f.chars setting b ++ x).head? ≠ some setting.closingQuote := by
  obtain ⟨rest, hrest⟩ := List.head?_eq_some_iff.mp f.head_sign
  rw [chars, hrest]
  simpa using Ne.symm h

/-! ### Parameters -/

/-- Further parameters end where no further text between parameters stands. -/
theorem rest_inj {between back : String} (hapart : ∀ s t, between.toList ++ s ≠ back.toList ++ t)
    (h : b.flatMap (fun next => between.toList ++ next.1.toList) ++ (back.toList ++ x) =
      c.flatMap (fun next => between.toList ++ next.1.toList) ++ (back.toList ++ y))
    (hbind : b ++ u = c ++ v) : b = c ∧ x = y ∧ u = v := by
  induction b generalizing c with
  | nil =>
    cases c with
    | nil => exact ⟨rfl, List.append_cancel_left h, hbind⟩
    | cons next c =>
      rw [List.flatMap_cons, List.append_assoc, List.append_assoc] at h
      exact absurd h.symm (hapart _ _)
  | cons first b ih =>
    cases c with
    | nil =>
      rw [List.flatMap_cons, List.append_assoc, List.append_assoc] at h
      exact absurd h (hapart _ _)
    | cons next c =>
      obtain ⟨hfirst, hrest⟩ := List.cons.inj hbind
      subst hfirst
      simp only [List.flatMap_cons, List.append_assoc, List.append_cancel_left_eq] at h
      obtain ⟨rfl, hx, hu⟩ := ih h hrest
      exact ⟨rfl, hx, hu⟩

/-- A list ends where no comma follows. -/
theorem between_ne_back (f : Form) (h : f.arity = none) (s t : List Char) :
    f.between.toList ++ s ≠ (f.back setting).toList ++ t := by
  cases f with
  | values negated | inline negated => simp [between, back]
  | null negated | compare comparison | range negated | array negated => cases h

/-- The parameters of a form are told from its text, along with what is bound to them. -/
theorem chars_append_inj (hb : f.Fits b) (hc : f.Fits c) (h : f.chars setting b ++ x = f.chars setting c ++ y)
    (hbind : b ++ u = c ++ v) : b = c ∧ x = y ∧ u = v := by
  simp only [chars, List.append_assoc, List.append_cancel_left_eq] at h
  rw [Fits] at hb hc
  cases harity : f.arity with
  | some n =>
    rw [harity] at hb hc
    obtain ⟨rfl, hu⟩ := List.append_inj hbind (hb.trans hc.symm)
    simp only [List.append_cancel_left_eq] at h
    exact ⟨rfl, h, hu⟩
  | none =>
    rw [harity] at hb hc
    obtain ⟨first, b, rfl⟩ := List.exists_cons_of_ne_nil hb
    obtain ⟨next, c, rfl⟩ := List.exists_cons_of_ne_nil hc
    obtain ⟨hfirst, hrest⟩ := List.cons.inj hbind
    subst hfirst
    simp only [joined, List.append_assoc, List.append_cancel_left_eq] at h
    obtain ⟨rfl, hx, hu⟩ := rest_inj (f.between_ne_back harity) h hrest
    exact ⟨rfl, hx, hu⟩

end Form

namespace Test
variable {setting : Setting} {a b : Test}

/-- The form in which a test is spelled, if it is not for one of no values. -/
def form (setting : Setting) : Test → Form
  | null negated => .null negated
  | compare comparison _ => .compare comparison
  | range negated _ _ => .range negated
  | among negated values =>
    match ListForm.of setting values.length with
    | .array => .array negated
    | .values => .values negated
    | .inline => .inline negated

theorem form_among (setting : Setting) (negated : Bool) (values : List Value) :
    (among negated values).form setting = match ListForm.of setting values.length with
      | .array => .array negated
      | .values => .values negated
      | .inline => .inline negated := rfl

theorem listForm_eq_array_iff {length : Nat} :
    ListForm.of setting length = .array ↔ exceeds length setting.arrayThreshold = true := by
  rw [ListForm.of]
  split
  · simp_all
  · split <;> simp_all

/-- The values of a list are bound one by one, or all as one array. -/
theorem values_slots_among {negated : Bool} {values : List Value} (h : values ≠ []) :
    ((among negated values).slots setting.arrayThreshold).map (·.2) =
      if ListForm.of setting values.length = .array then [.list values] else values := by
  have hne : values.isEmpty = false := by
    rwa [← Bool.not_eq_true, List.isEmpty_iff]
  simp only [slots, hne, Bool.false_eq_true, if_false, listForm_eq_array_iff]
  split
  · rfl
  · exact List.ext_getElem (by simp) fun i h₁ h₂ => by simp

/-- A test with the bounds of a list is the one with the same form and the same values. -/
theorem eq_of_form (ha : ∀ negated, a ≠ among negated []) (hb : ∀ negated, b ≠ among negated [])
    (hform : a.form setting = b.form setting)
    (hvalues : (a.slots setting.arrayThreshold).map (·.2) = (b.slots setting.arrayThreshold).map (·.2)) :
    a = b := by
  have hlist : ∀ {negated : Bool} {values : List Value}, (∀ n, among negated values ≠ among n []) → values ≠ [] := by
    rintro negated _ h rfl
    exact h negated rfl
  cases a with
  | null m =>
    cases b with
    | null n =>
      cases hform
      rfl
    | compare | range => cases hform
    | among n values =>
      rw [form_among] at hform
      split at hform <;> cases hform
  | compare c v =>
    cases b with
    | compare d w =>
      cases hform
      cases hvalues
      rfl
    | null | range => cases hform
    | among n values =>
      rw [form_among] at hform
      split at hform <;> cases hform
  | range m v₁ v₂ =>
    cases b with
    | range n w₁ w₂ =>
      cases hform
      cases hvalues
      rfl
    | null | compare => cases hform
    | among n values =>
      rw [form_among] at hform
      split at hform <;> cases hform
  | among m vs =>
    cases b with
    | among n ws =>
      rw [form_among, form_among] at hform
      rw [values_slots_among (hlist ha), values_slots_among (hlist hb)] at hvalues
      revert hform hvalues
      cases ListForm.of setting vs.length <;> cases ListForm.of setting ws.length <;> simp +contextual
    | null | compare | range =>
      rw [form_among] at hform
      split at hform <;> cases hform

/-- The parameters of a test fit its form. -/
theorem fits_form {bindings : List (String × Value)} (h : ∀ negated, a ≠ among negated [])
    (hbindings : bindings.map (·.2) = (a.slots setting.arrayThreshold).map (·.2)) :
    (a.form setting).Fits bindings := by
  have hlength : bindings.length = ((a.slots setting.arrayThreshold).map (·.2)).length := by
    rw [← hbindings, List.length_map]
  cases a with
  | null | compare | range => exact hlength
  | among negated values =>
    have hne : values ≠ [] := by
      rintro rfl
      exact h negated rfl
    rw [values_slots_among hne] at hlength
    rw [form_among]
    cases hform : ListForm.of setting values.length with
    | array =>
      rw [if_pos hform] at hlength
      exact hlength
    | values | inline =>
      rw [hform, if_neg (by simp)] at hlength
      show bindings ≠ []
      rintro rfl
      exact hne (List.length_eq_zero_iff.mp hlength.symm)

end Test

/-! ### Conditions -/

section Spelled
variable (setting : Setting) (semantics : NullSemantics)

/-- A text and parameters by which a condition is spelled. -/
inductive Spelled : Meaning → List (String × Value) → List Char → Prop
  | constant (holds : Bool) : Spelled (.constant holds) [] (if holds then "1 = 1" else "1 = 0").toList
  | plain {column : String} {test : Test} {bindings : List (String × Value)}
      (hvalues : bindings.map (·.2) = (test.slots setting.arrayThreshold).map (·.2))
      (hlist : ∀ negated, test ≠ .among negated [])
      (hplain : semantics = .nullNotEqual → test.form setting ≠ .compare .notEqual) :
      Spelled (.tested column test) bindings
        (quoteChars setting.openingQuote setting.closingQuote column.toList ++
          (test.form setting).chars setting bindings)
  /-- Unequal, or NULL. -/
  | orNull {column name : String} {value : Scalar} (h : semantics = .nullNotEqual) :
      Spelled (.tested column (.compare .notEqual value)) [(name, .scalar value)]
        ('(' :: (quoteChars setting.openingQuote setting.closingQuote column.toList ++ (" <> @".toList ++
          (name.toList ++ (" OR ".toList ++
            (quoteChars setting.openingQuote setting.closingQuote column.toList ++ " IS NULL)".toList))))))

variable {setting : Setting} {semantics : NullSemantics} {lead : String}

/-- Parameters that stand alike, with a separator between. -/
theorem chars_separated (setting : Setting) (separator between : String) (item : String × Value → List Atom)
    {l r : List Char}
    (hitem : ∀ b, (item b).flatMap (·.chars setting) = l ++ (b.1.toList ++ r))
    (hbetween : between.toList = r ++ (separator.toList ++ l)) (first : String × Value)
    (rest : List (String × Value)) :
    (Atom.separated separator ((first :: rest).map item)).flatMap (·.chars setting) =
      l ++ (Form.joined between (first :: rest) ++ r) := by
  induction rest generalizing first with
  | nil => simpa [Atom.separated, Form.joined] using hitem first
  | cons next rest ih =>
    have ih := ih next
    rw [List.map_cons] at ih
    rw [List.map_cons, List.map_cons, Atom.separated_cons, List.flatMap_append, List.flatMap_cons, ih, hitem]
    simp [Form.joined, hbetween, Atom.chars]

theorem NamedCondition.map_bindings (named : NamedCondition) (t : Option Nat) (lead : String) :
    (named.bindings t lead).map (·.2) = (named.condition.test.slots t).map (·.2) := by
  rw [bindings, List.map_map]
  rfl

/-- A list with values in the form that its length asks for. -/
theorem Test.chars_among (hmark : setting.parameterMark = '@') {column : String} {negated : Bool}
    {values : List Value} {bindings : List (String × Value)} (hne : values ≠ [])
    (hvalues : bindings.map (·.2) = ((among negated values).slots setting.arrayThreshold).map (·.2)) :
    ((among negated values).atoms setting semantics (.name column)
        (bindings.map fun (parameter, _) => .placeholder parameter)).flatMap (·.chars setting) =
      quoteChars setting.openingQuote setting.closingQuote column.toList ++
        ((among negated values).form setting).chars setting bindings := by
  rw [values_slots_among hne] at hvalues
  have hbound : bindings ≠ [] := by
    rintro rfl
    split at hvalues
    · cases hvalues
    · exact hne hvalues.symm
  obtain ⟨first, rest, rfl⟩ := List.exists_cons_of_ne_nil hbound
  rw [atoms, if_neg (by simpa using hne), form_among]
  cases hform : ListForm.of setting values.length with
  | array =>
    rw [hform, if_pos rfl, List.map_cons] at hvalues
    obtain ⟨-, hrest⟩ := List.cons.inj hvalues
    obtain rfl := List.map_eq_nil_iff.mp hrest
    cases negated
    all_goals simp [Atom.chars, Form.chars, Form.sign, Form.front, Form.back, Form.joined, hmark]
  | values =>
    have hrows := chars_separated setting ", " "), (@" (fun b => [.fixed "(", .placeholder b.1, .fixed ")"])
      (l := "(@".toList) (r := ")".toList) (fun b => by simp [Atom.chars, hmark]) (by simp) first rest
    simp only [List.flatMap_append, List.map_map, Function.comp_def, Atom.listed, hrows]
    simp [Atom.chars, Form.chars, Form.sign, Form.front, Form.back, Form.between, Form.valueColumn]
  | inline =>
    have hitems := chars_separated setting ", " ", @" (fun b => [.placeholder b.1]) (l := "@".toList)
      (r := []) (fun b => by simp [Atom.chars, hmark]) (by simp) first rest
    simp only [List.flatMap_append, List.map_map, Function.comp_def, Atom.listed, hitems]
    simp [Atom.chars, Form.chars, Form.sign, Form.front, Form.back, Form.between]

/-- A named condition is spelled with the parameters that it binds. -/
theorem NamedCondition.spelled (hmark : setting.parameterMark = '@') (named : NamedCondition) :
    Spelled setting semantics named.condition.meaning (named.bindings setting.arrayThreshold lead)
      ((named.atoms setting semantics lead).flatMap (·.chars setting)) := by
  have hvalues := named.map_bindings setting.arrayThreshold lead
  rw [atoms]
  generalize named.bindings setting.arrayThreshold lead = bindings at hvalues
  obtain ⟨⟨field, test, parameter⟩, name⟩ := named
  have hplain : ∀ {text : List Char}, (∀ negated, test ≠ .among negated []) →
      (semantics = .nullNotEqual → test.form setting ≠ .compare .notEqual) →
      text = quoteChars setting.openingQuote setting.closingQuote field.name.toList ++
        (test.form setting).chars setting bindings →
      Spelled setting semantics (.tested field.name test) bindings text := by
    rintro _ hlist hform rfl
    exact .plain hvalues hlist hform
  cases test with
  | null negated =>
    obtain rfl := List.map_eq_nil_iff.mp hvalues
    refine hplain (fun _ h => by cases h) (fun _ h => by cases h) ?_
    simp [Test.atoms, Atom.chars, Test.form, Form.chars, Form.sign, Form.front, Form.back, Form.joined]
  | compare comparison value =>
    obtain ⟨⟨text, _⟩, rfl, rfl⟩ := List.map_eq_singleton_iff.mp hvalues
    by_cases h : comparison = .notEqual ∧ semantics = .nullNotEqual
    · obtain ⟨rfl, hsemantics⟩ := h
      have hspelled := @Spelled.orNull setting semantics field.name text value hsemantics
      simpa [Condition.meaning, Test.atoms, hsemantics, Atom.chars, hmark] using hspelled
    · refine hplain (fun _ h => by cases h) (fun hsemantics hform => ?_) ?_
      · cases hform
        exact h ⟨rfl, hsemantics⟩
      · simp [Test.atoms, Atom.chars, Test.form, Form.chars, Form.sign, Form.front, Form.back, Form.joined, h,
          hmark]
  | range negated low high =>
    obtain ⟨⟨left, _⟩, rest, rfl, rfl, hrest⟩ := List.map_eq_cons_iff.mp hvalues
    obtain ⟨⟨right, _⟩, rfl, rfl⟩ := List.map_eq_singleton_iff.mp hrest
    refine hplain (fun _ h => by cases h) (fun _ h => by cases h) ?_
    simp [Test.atoms, Atom.chars, Atom.separated, Test.form, Form.chars, Form.sign, Form.front,
      Form.back, Form.between, Form.joined, hmark]
  | among negated values =>
    cases values with
    | nil =>
      obtain rfl := List.map_eq_nil_iff.mp hvalues
      simpa [Condition.meaning, Test.atoms, Atom.chars] using Spelled.constant negated
    | cons value values =>
      refine hplain (fun _ h => by cases h) (fun _ hform => ?_)
        (Test.chars_among hmark (List.cons_ne_nil value values) hvalues)
      rw [Test.form_among] at hform
      split at hform <;> cases hform

/-! ### Where a condition ends -/

/-- No character of a quote stands at the start of anything else. -/
theorem openingQuote_notMem (hm : setting.marks.IsStandard) :
    setting.openingQuote ∉ ['(', ')', 'N', '1'] := by
  have hquotes : (setting.openingQuote, setting.closingQuote) ∈ quotePairs := hm.1
  simp only [quotePairs, List.mem_cons, Prod.mk.injEq, List.not_mem_nil, or_false] at hquotes
  rcases hquotes with ⟨hopen, -⟩ | ⟨hopen, -⟩ | ⟨hopen, -⟩
  all_goals
    rw [hopen]
    decide

theorem closingQuote_ne_space (hm : setting.marks.IsStandard) : setting.closingQuote ≠ ' ' :=
  ((hm.isReadable.ne_quotes (c := ' ') (by decide)).2).symm

variable {m m' : Meaning} {b b' u v : List (String × Value)} {text text' x y : List Char}

theorem head_quoted (name : String) (rest : List Char) :
    (quoteChars setting.openingQuote setting.closingQuote name.toList ++ rest).head? = some setting.openingQuote :=
  rfl

namespace Spelled

theorem head_constant (holds : Bool) (rest : List Char) :
    ((if holds then "1 = 1" else "1 = 0").toList ++ rest).head? = some '1' := by
  cases holds <;> simp

/-- A condition starts with a quote, a digit or a parenthesis. -/
theorem head_mem (h : Spelled setting semantics m b text) (rest : List Char) :
    ∃ c ∈ [setting.openingQuote, '1', '('], (text ++ rest).head? = some c := by
  cases h with
  | constant holds => exact ⟨'1', by simp, head_constant holds rest⟩
  | plain => exact ⟨_, List.mem_cons_self, rfl⟩
  | orNull => exact ⟨'(', by simp, rfl⟩

/-- Two conditions with one text and one list of parameters, whatever comes behind either, say the same. -/
theorem inj (hm : setting.marks.IsStandard) (h : Spelled setting semantics m b text)
    (h' : Spelled setting semantics m' b' text') (htext : text ++ x = text' ++ y) (hbind : b ++ u = b' ++ v) :
    m = m' ∧ x = y ∧ u = v := by
  have hopening := openingQuote_notMem hm
  simp only [List.mem_cons, not_or] at hopening
  obtain ⟨hparen, -, -, hone, -⟩ := hopening
  have hspace := closingQuote_ne_space hm
  have hhead := congrArg List.head? htext
  cases h with
  | constant holds =>
    rw [head_constant] at hhead
    cases h' with
    | constant holds' =>
      have hend : holds = holds' ∧ x = y := by
        cases holds <;> cases holds' <;> simp_all
      exact ⟨congrArg _ hend.1, hend.2, hbind⟩
    | plain => exact absurd (Option.some.inj hhead).symm hone
    | orNull => cases hhead
  | @plain column test _ hvalues hlist hplain =>
    cases h' with
    | constant holds' =>
      rw [head_constant] at hhead
      exact absurd (Option.some.inj hhead) hone
    | @plain column' test' _ hvalues' hlist' hplain' =>
      rw [List.append_assoc, List.append_assoc] at htext
      obtain ⟨hcolumn, hbehind⟩ := quoteChars_append_inj (Form.head_chars hspace _ _ _)
        (Form.head_chars hspace _ _ _) htext
      -- The same sign, so the same form, which tells how the parameters go on.
      have hform : test.form setting = test'.form setting := by
        simp only [Form.chars, List.append_assoc] at hbehind
        exact (Form.sign_append_inj hbehind).1
      rw [hform] at hbehind
      obtain ⟨rfl, hx, hu⟩ := Form.chars_append_inj (hform ▸ Test.fits_form hlist hvalues)
        (Test.fits_form hlist' hvalues') hbehind hbind
      have htest := Test.eq_of_form hlist hlist' hform (hvalues.symm.trans hvalues')
      rw [String.toList_injective hcolumn, htest]
      exact ⟨rfl, hx, hu⟩
    | orNull => exact absurd (Option.some.inj hhead) hparen
  | @orNull column name value hsemantics =>
    cases h' with
    | constant holds' =>
      rw [head_constant] at hhead
      cases hhead
    | plain => exact absurd (Option.some.inj hhead).symm hparen
    | @orNull column' name' value' hsemantics' =>
      obtain ⟨hfirst, hu⟩ := List.cons.inj hbind
      cases hfirst
      simp only [List.cons_append, List.append_assoc, List.cons.injEq, true_and] at htext
      obtain ⟨hcolumn, hbehind⟩ := quoteChars_append_inj (by simpa using Ne.symm hspace)
        (by simpa using Ne.symm hspace) htext
      obtain rfl := String.toList_injective hcolumn
      simp only [List.append_cancel_left_eq] at hbehind
      exact ⟨rfl, hbehind, hu⟩

/-- Where a comparison for inequality also holds for NULL, none is spelled without parentheses. -/
theorem ne_unequal (hm : setting.marks.IsStandard) (h : Spelled setting semantics m b text)
    (hsemantics : semantics = .nullNotEqual) {column : String} :
    quoteChars setting.openingQuote setting.closingQuote column.toList ++
      ((Form.compare .notEqual).sign.toList ++ x) ≠ text ++ y := by
  intro heq
  have hopening := openingQuote_notMem hm
  simp only [List.mem_cons, not_or] at hopening
  obtain ⟨hparen, -, -, hone, -⟩ := hopening
  have hhead := congrArg List.head? heq
  rw [head_quoted] at hhead
  cases h with
  | constant holds =>
    rw [head_constant] at hhead
    exact hone (Option.some.inj hhead)
  | plain hvalues hlist hplain =>
    have hspace := closingQuote_ne_space hm
    rw [List.append_assoc] at heq
    obtain ⟨-, hbehind⟩ := quoteChars_append_inj (by simpa [Form.sign] using Ne.symm hspace)
      (Form.head_chars hspace _ _ _) heq
    simp only [Form.chars, List.append_assoc] at hbehind
    exact hplain hsemantics (Form.sign_append_inj hbehind).1.symm
  | orNull => exact hparen (Option.some.inj hhead)

end Spelled

end Spelled

end CrudSql

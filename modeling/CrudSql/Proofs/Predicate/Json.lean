import Mathlib.Data.List.Induction
import Mathlib.Data.List.Nodup
import CrudSql.Predicate.Json
import CrudSql.Proofs.Outcome

/-! Predicates from JSON objects. An object is accepted if its keys name columns and no object stands in
    the values of its members; then its members, in the order of their keys, have one condition each. Lists
    may stand in lists, where a list of values was asked for; where none does, every member has a value or a
    list of values. -/

namespace CrudSql
open Text

/-- A text without the white space and one pair of quotes around it. -/
def columnName (text : String) : String := trim (unquote (trim text))

namespace Json
variable {json value : Json} {members entries : List (String × Json)} {member : String × Json} {key : String}

/-- Neither lists nor objects. A literal of which there is no number in 64 bits, whole or not, is none. -/
inductive IsScalar : Json → Prop
  | null : IsScalar null
  | bool (value : Bool) : IsScalar (bool value)
  | number {literal : NumberLiteral} (h : literal.int? ≠ none ∨ literal.binary64? ≠ none) : IsScalar (number literal)
  | text (value : String) : IsScalar (text value)

/-- A value for a column, or a list of such values. -/
inductive IsOperand : Json → Prop
  | scalar {json : Json} (h : IsScalar json) : IsOperand json
  | list {items : List Json} (h : ∀ item ∈ items, IsScalar item) : IsOperand (list items)

/-- Made of scalars by lists alone, at any depth. -/
inductive IsObjectFree : Json → Prop
  | scalar {json : Json} (h : IsScalar json) : IsObjectFree json
  | list {items : List Json} (h : ∀ item ∈ items, IsObjectFree item) : IsObjectFree (list items)

/-- An object whose keys name columns and whose values are of a kind. -/
def IsObjectOf (kind : Json → Prop) (json : Json) : Prop :=
  (∃ members, json = object members) ∧
    ∀ key value, json.member? key = some value → columnName key ≠ "" ∧ kind value

/-- The members of an object in the strict order of their keys, each key with the value that it has. -/
structure IsMap (json : Json) (entries : List (String × Json)) : Prop where
  ordered : entries.Pairwise fun a b => a.1 < b.1
  mem_iff : ∀ key value, (key, value) ∈ entries ↔ json.member? key = some value

/-! ### Values -/

theorem isObjectFree_number_iff {literal : NumberLiteral} :
    IsObjectFree (number literal) ↔ literal.int? ≠ none ∨ literal.binary64? ≠ none := by
  refine ⟨fun h => ?_, fun h => .scalar (.number h)⟩
  cases h with
  | scalar h => cases h with
    | number h => exact h

theorem isObjectFree_list_iff {items : List Json} :
    IsObjectFree (list items) ↔ ∀ item ∈ items, IsObjectFree item := by
  refine ⟨fun h => ?_, .list⟩
  cases h with
  | scalar h => cases h
  | list h => exact h

theorem IsOperand.isObjectFree (h : IsOperand json) : IsObjectFree json := by
  cases h with
  | scalar h => exact .scalar h
  | list h => exact .list fun item hitem => .scalar (h item hitem)

/-- Where no list stands in a list, a value without objects is an operand. -/
theorem IsObjectFree.isOperand (h : IsObjectFree json)
    (hflat : ∀ items, json = .list items → ∀ item ∈ items, ∀ inner, item ≠ .list inner) : IsOperand json := by
  cases h with
  | scalar h => exact .scalar h
  | @list items h =>
    refine .list fun item hitem => ?_
    cases h item hitem with
    | scalar hscalar => exact hscalar
    | @list inner => exact absurd rfl (hflat items rfl _ hitem inner)

end Json

theorem exists_mapM_option_iff {α β : Type} {f : α → Option β} {items : List α} :
    (∃ results, items.mapM f = some results) ↔ ∀ item ∈ items, ∃ result, f item = some result := by
  induction items with
  | nil => exact iff_of_true ⟨[], rfl⟩ (by simp)
  | cons item items ih =>
    rw [List.forall_mem_cons, ← ih]
    simp only [List.mapM_cons, Option.bind_eq_bind, Option.bind_eq_some_iff, Option.pure_def, Option.some.injEq]
    constructor
    · rintro ⟨results, first, hfirst, rest, hrest, rfl⟩
      exact ⟨⟨first, hfirst⟩, rest, hrest⟩
    · rintro ⟨⟨first, hfirst⟩, rest, hrest⟩
      exact ⟨first :: rest, first, hfirst, rest, hrest, rfl⟩

namespace Value
variable {json : Json} {value : Value}

/-- A value stands for JSON exactly if no object is in it. -/
theorem exists_ofJson?_iff : (∃ value, ofJson? json = some value) ↔ json.IsObjectFree := by
  induction json using ofJson?.induct with
  | case1 => exact iff_of_true ⟨_, ofJson?.eq_1⟩ (.scalar .null)
  | case2 b => exact iff_of_true ⟨_, ofJson?.eq_2 b⟩ (.scalar (.bool b))
  | case3 literal i hi =>
    refine iff_of_true ?_ (Json.isObjectFree_number_iff.mpr (.inl (by simp [hi])))
    simp [ofJson?, hi]
  | case4 literal hi => simp [ofJson?, hi, Json.isObjectFree_number_iff, Option.ne_none_iff_exists']
  | case5 text => exact iff_of_true ⟨_, ofJson?.eq_4 text⟩ (.scalar (.text text))
  | case6 parts | case8 members =>
    refine iff_of_false (by simp [ofJson?]) fun h => ?_
    cases h with
    | scalar h => cases h
  | case7 items ih =>
    have hitems : (∃ values, items.mapM ofJson? = some values) ↔ ∀ item ∈ items, item.IsObjectFree :=
      exists_mapM_option_iff.trans (forall₂_congr ih)
    rw [ofJson?, Json.isObjectFree_list_iff, ← hitems]
    simp

/-- Only lists stand for lists. -/
theorem ofJson?_eq_list {values : List Value} (h : ofJson? json = some (.list values)) :
    ∃ items, json = .list items := by
  cases json with
  | list items => exact ⟨items, rfl⟩
  | null | bool | text | broken | object => simp [ofJson?] at h
  | number literal =>
    rw [ofJson?] at h
    split at h
    · simp at h
    · simp at h

end Value

/-! ### Maps -/

namespace Json
variable {json value : Json} {members entries : List (String × Json)} {member : String × Json} {key : String}

/-- The members without those that have the key of a later one. -/
def kept (members : List (String × Json)) : List (String × Json) :=
  members.foldl (fun kept member => kept.filter (·.1 != member.1) ++ [member]) []

theorem kept_concat (members : List (String × Json)) (member : String × Json) :
    kept (members ++ [member]) = (kept members).filter (·.1 != member.1) ++ [member] :=
  List.foldl_concat ..

theorem nodup_kept (members : List (String × Json)) : ((kept members).map (·.1)).Nodup := by
  induction members using List.reverseRecOn with
  | nil => exact .nil
  | append_singleton members member ih =>
    rw [kept_concat, List.map_append, List.map_singleton, List.nodup_append]
    refine ⟨ih.sublist (List.filter_sublist.map _), List.nodup_singleton _, fun key hkey other hother => ?_⟩
    obtain ⟨earlier, hearlier, rfl⟩ := List.mem_map.mp hkey
    rw [List.mem_singleton.mp hother]
    exact bne_iff_ne.mp (List.mem_filter.mp hearlier).2

/-- A key has its last value. -/
theorem mem_kept_iff : (key, value) ∈ kept members ↔ (object members).member? key = some value := by
  induction members using List.reverseRecOn with
  | nil => exact iff_of_false List.not_mem_nil nofun
  | append_singleton members member ih =>
    rw [kept_concat, List.mem_append, List.mem_filter, ih, List.mem_singleton]
    rw [member?, member?, List.reverse_append, List.reverse_singleton, List.singleton_append, List.find?_cons]
    by_cases hkey : member.1 = key
    · simp [hkey, Prod.ext_iff, eq_comm]
    · have hother : (member.1 == key) = false := beq_eq_false_iff_ne.mpr hkey
      have hne : key ≠ member.1 := fun h => hkey h.symm
      simp [hother, hne, Prod.ext_iff]

theorem isMap_sortedMembers (members : List (String × Json)) : IsMap (object members) (sortedMembers members) := by
  have hsorted : sortedMembers members = (kept members).mergeSort fun a b => !decide (b.1 < a.1) := rfl
  have hperm : (sortedMembers members).Perm (kept members) := hsorted ▸ List.mergeSort_perm ..
  refine ⟨?_, fun key value => hperm.mem_iff.trans mem_kept_iff⟩
  have hnodup : (sortedMembers members).Pairwise fun a b => a.1 ≠ b.1 :=
    List.pairwise_map.mp ((hperm.map Prod.fst).nodup_iff.mpr (nodup_kept members))
  have hle : (sortedMembers members).Pairwise fun a b => (!decide (b.1 < a.1)) = true := by
    refine hsorted ▸ List.pairwise_mergeSort (fun a b c hab hbc => ?_) (fun a b => ?_) _
    · simp only [Bool.not_eq_true', decide_eq_false_iff_not, String.not_lt] at hab hbc ⊢
      exact String.le_trans hab hbc
    · simp only [Bool.or_eq_true, Bool.not_eq_true', decide_eq_false_iff_not, String.not_lt]
      exact String.le_total ..
  refine hle.imp₂ (fun a b hab hne => ?_) hnodup
  simp only [Bool.not_eq_true', decide_eq_false_iff_not, String.not_lt] at hab
  exact String.not_le.mp fun hba => hne (String.le_antisymm hab hba)

end Json

/-! ### Conditions -/

theorem Field.named_eq_ok_iff {text : String} {field : Field} :
    named text = .ok field ↔ columnName text ≠ "" ∧ field = { name := columnName text } := by
  rw [named, ← columnName]
  by_cases hname : columnName text = ""
  · simp [hname]
  · rw [if_neg hname, Except.ok.injEq]
    exact ⟨fun h => ⟨hname, h.symm⟩, fun h => h.2.symm⟩

/-- A test that is made has the operator and the operand that were given. -/
theorem Test.of_eq_ok_iff {field : Field} {operator : Operator} {operand : Value} {test : Test} :
    of field operator operand = .ok test ↔ test.operator = operator ∧ test.operand = operand := by
  constructor
  · intro h
    unfold of at h
    split at h <;> cases h <;> exact ⟨rfl, rfl⟩
  · rintro ⟨rfl, rfl⟩
    exact of_operator_operand field test

namespace Condition
variable {key : String} {json : Json} {condition : Condition}

/-- The operator for a member of an object. -/
def operatorFor : Json → Operator
  | .list _ => .among false
  | _ => .compare .equal

/-- The condition that the column of a member has its value, or one of its values. -/
structure StandsFor (member : String × Json) (condition : Condition) : Prop where
  field : condition.field = { name := columnName member.1 }
  operator : condition.test.operator = operatorFor member.2
  operand : Value.ofJson? member.2 = some condition.test.operand
  parameter : condition.parameter = none

/-- The operator goes by the value that stands for a member as well. -/
theorem operatorFor_cases {value : Value} (h : Value.ofJson? json = some value) :
    (∃ values, value = .list values ∧ operatorFor json = .among false) ∨
      ((∀ values, value ≠ .list values) ∧ operatorFor json = .compare .equal) := by
  cases value with
  | list values =>
    obtain ⟨items, rfl⟩ := Value.ofJson?_eq_list h
    exact .inl ⟨values, rfl, rfl⟩
  | null | scalar =>
    refine .inr ⟨fun values h => (by cases h), ?_⟩
    cases json with
    | list items => simp [Value.ofJson?] at h
    | null | bool | number | text | broken | object => rfl

theorem ofMember_eq {value : Value} (h : Value.ofJson? json = some value) :
    ofMember key json = of key (operatorFor json) value := by
  rw [ofMember, h]
  rcases operatorFor_cases h with ⟨values, rfl, hoperator⟩ | ⟨hvalue, hoperator⟩
  · rw [hoperator]
  · rw [hoperator]
    cases value with
    | list values => exact absurd rfl (hvalue values)
    | null | scalar => rfl

/-- A test is made with every value that stands for a member. -/
theorem exists_test {value : Value} (field : Field) (h : Value.ofJson? json = some value) :
    ∃ test, Test.of field (operatorFor json) value = .ok test := by
  rcases operatorFor_cases h with ⟨values, rfl, hoperator⟩ | ⟨hvalue, hoperator⟩
  · exact ⟨.among false values, by rw [hoperator]; rfl⟩
  · rw [hoperator]
    cases value with
    | list values => exact absurd rfl (hvalue values)
    | null => exact ⟨.null false, rfl⟩
    | scalar operand => exact ⟨.compare .equal operand, rfl⟩

theorem ofMember_eq_ok_iff : ofMember key json = .ok condition ↔
    columnName key ≠ "" ∧ StandsFor (key, json) condition := by
  constructor
  · intro h
    obtain ⟨value, hvalue⟩ : ∃ value, Value.ofJson? json = some value := by
      refine Option.ne_none_iff_exists'.mp fun hnone => ?_
      rw [ofMember, hnone] at h
      cases h
    rw [ofMember_eq hvalue] at h
    simp only [of, bind_eq_ok, pure_eq_ok, Field.named_eq_ok_iff, Test.of_eq_ok_iff] at h
    obtain ⟨field, ⟨hname, rfl⟩, test, ⟨hoperator, rfl⟩, rfl⟩ := h
    exact ⟨hname, rfl, hoperator, hvalue, rfl⟩
  · obtain ⟨field, test, parameter⟩ := condition
    rintro ⟨hname, rfl, hoperator, hoperand, rfl⟩
    rw [ofMember_eq hoperand, of]
    simp only [bind_eq_ok, pure_eq_ok, Field.named_eq_ok_iff, Test.of_eq_ok_iff]
    exact ⟨_, ⟨hname, rfl⟩, test, ⟨hoperator, rfl⟩, rfl⟩

theorem exists_ofMember_iff : (∃ condition, ofMember key json = .ok condition) ↔
    columnName key ≠ "" ∧ json.IsObjectFree := by
  rw [← Value.exists_ofJson?_iff]
  constructor
  · rintro ⟨condition, h⟩
    obtain ⟨hname, hstands⟩ := ofMember_eq_ok_iff.mp h
    exact ⟨hname, _, hstands.operand⟩
  · rintro ⟨hname, value, hvalue⟩
    obtain ⟨test, htest⟩ := exists_test { name := columnName key } hvalue
    refine ⟨{ field := { name := columnName key }, test }, ?_⟩
    rw [ofMember_eq hvalue, of]
    simp only [bind_eq_ok, pure_eq_ok, Field.named_eq_ok_iff]
    exact ⟨_, ⟨hname, rfl⟩, test, htest, rfl⟩

end Condition

/-! ### Predicates -/

namespace Predicate
variable {json : Json} {predicate : Predicate} {members : List (String × Json)}

theorem ofJson_eq_ok_iff : ofJson json = .ok predicate ↔ ∃ members conditions, json = .object members ∧
    List.Forall₂ (fun member condition => Condition.ofMember member.1 member.2 = .ok condition)
      (Json.sortedMembers members) conditions ∧
    predicate = ofList .and (conditions.map .condition) := by
  cases json with
  | object members =>
    simp only [ofJson, bind_eq_ok, pure_eq_ok, mapM_eq_ok_iff]
    constructor
    · rintro ⟨conditions, hconditions, rfl⟩
      exact ⟨members, conditions, rfl, hconditions, rfl⟩
    · rintro ⟨_, conditions, ⟨⟩, hconditions, rfl⟩
      exact ⟨conditions, hconditions, rfl⟩
  | null | bool | number | text | broken | list => simp [ofJson]

theorem exists_ofJson_iff : (∃ predicate, ofJson json = .ok predicate) ↔ json.IsObjectOf Json.IsObjectFree := by
  cases json with
  | object members =>
    have hmap := Json.isMap_sortedMembers members
    have haccept : (∃ predicate, ofJson (.object members) = .ok predicate) ↔
        ∀ member ∈ Json.sortedMembers members, ∃ condition, Condition.ofMember member.1 member.2 = .ok condition := by
      rw [← exists_mapM_iff]
      simp only [ofJson, bind_eq_ok, pure_eq_ok]
      constructor
      · rintro ⟨predicate, conditions, hconditions, -⟩
        exact ⟨conditions, hconditions⟩
      · rintro ⟨conditions, hconditions⟩
        exact ⟨_, conditions, hconditions, rfl⟩
    rw [haccept, Json.IsObjectOf]
    simp only [Condition.exists_ofMember_iff]
    refine ⟨fun h => ⟨⟨members, rfl⟩, fun key value hmember => ?_⟩, fun h member hmember => ?_⟩
    · exact h (key, value) ((hmap.mem_iff key value).mpr hmember)
    · exact h.2 member.1 member.2 ((hmap.mem_iff member.1 member.2).mp hmember)
  | null | bool | number | text | broken | list => simp [ofJson, Json.IsObjectOf]

/-- Objects are accepted whose keys name columns and whose members have values without objects. Each member
    gives one condition, in the order of the keys, and all of them are joined by AND. Where no list stands
    in a list, the accepted values are those for a column and lists of such. -/
theorem accepts_of_json (json : Json) :
    ((∃ predicate, ofJson json = .ok predicate) ↔ json.IsObjectOf Json.IsObjectFree) ∧
    (∀ predicate, ofJson json = .ok predicate → ∃ entries conditions, json.IsMap entries ∧
      List.Forall₂ Condition.StandsFor entries conditions ∧
      predicate = ofList .and (conditions.map .condition)) ∧
    ((∀ key items, json.member? key = some (.list items) → ∀ item ∈ items, ∀ inner, item ≠ .list inner) →
      ((∃ predicate, ofJson json = .ok predicate) ↔ json.IsObjectOf Json.IsOperand)) := by
  refine ⟨exists_ofJson_iff, fun predicate h => ?_, fun hflat => ?_⟩
  · obtain ⟨members, conditions, rfl, hconditions, rfl⟩ := ofJson_eq_ok_iff.mp h
    refine ⟨_, conditions, Json.isMap_sortedMembers members, hconditions.imp fun member condition h => ?_, rfl⟩
    exact (Condition.ofMember_eq_ok_iff.mp h).2
  · rw [exists_ofJson_iff, Json.IsObjectOf, Json.IsObjectOf]
    refine and_congr_right fun _ => forall₂_congr fun key value => forall_congr' fun hmember =>
      and_congr_right fun _ => ⟨fun h => h.isOperand ?_, Json.IsOperand.isObjectFree⟩
    rintro items rfl
    exact hflat key items hmember

/-- A list in a list is bound to a parameter, as a value is. -/
theorem nested_list_bound :
    ofJson (.object [("A", .list [.list [.ofNat 1]])]) =
        .ok (ofCondition { field := { name := "A" }, test := .among false [.list [.scalar (.int 1)]] }) ∧
      ¬(Json.object [("A", .list [.list [.ofNat 1]])]).IsObjectOf Json.IsOperand := by
  constructor
  · have hint : (NumberLiteral.ofNat 1).int? = some 1 := by
      decide +kernel
    have hvalue : Value.ofJson? (.list [.list [.ofNat 1]]) = some (.list [.list [.scalar (.int 1)]]) := by
      simp [Value.ofJson?, Json.ofNat, hint, NumberLiteral.signedEnd]
    have hname : Field.named "A" = .ok { name := "A" } := by
      with_unfolding_all decide
    have hmember : Condition.ofMember "A" (.list [.list [.ofNat 1]]) =
        .ok { field := { name := "A" }, test := .among false [.list [.scalar (.int 1)]] } := by
      rw [Condition.ofMember_eq hvalue, Condition.of, hname]
      rfl
    have hsorted : ∀ member : String × Json, Json.sortedMembers [member] = [member] := by
      simp [Json.sortedMembers]
    refine ofJson_eq_ok_iff.mpr ⟨_, [_], rfl, ?_, rfl⟩
    rw [hsorted]
    exact List.forall₂_cons.mpr ⟨hmember, .nil⟩
  · intro h
    obtain ⟨-, hoperand⟩ := h.2 "A" _ rfl
    cases hoperand with
    | scalar hscalar => cases hscalar
    | list hitems => cases hitems _ List.mem_cons_self

end Predicate

end CrudSql

import Mathlib.Data.List.Pairwise
import CrudSql.Field
import CrudSql.Proofs.Quote
import CrudSql.Proofs.Text.LowerCase

/-! Fields with plain names, and what becomes of their sets. A plain name is what reading it gives, so a
    plain name is compared as it stands. -/

namespace CrudSql
open Text

/-- A name that is the same without the white space and the quotes around it. -/
def Field.IsPlain (field : Field) : Prop := Field.named field.name = .ok { name := field.name }

/-- A name is plain exactly if it is not empty and is read as it stands. -/
theorem Field.isPlain_iff {field : Field} :
    field.IsPlain ↔ field.name ≠ "" ∧ trim (unquote (trim field.name)) = field.name := by
  unfold IsPlain named
  by_cases hblank : trim (unquote (trim field.name)) = ""
  · simp only [hblank, if_true, reduceCtorEq, false_iff, not_and]
    exact fun hne => hne.symm
  · simp only [hblank, if_false, Except.ok.injEq, Field.mk.injEq, and_true]
    exact ⟨fun h => ⟨h ▸ hblank, h⟩, And.right⟩

instance (field : Field) : Decidable field.IsPlain := decidable_of_iff' _ Field.isPlain_iff

theorem sameName_comm (a b : String) : sameName a b = sameName b a := by
  rw [sameName, sameName, Bool.eq_iff_iff, beq_iff_eq, beq_iff_eq]
  exact eq_comm

theorem sameName_refl (a : String) : sameName a a = true := beq_self_eq_true _

theorem sameName_trans {a b c : String} (hab : sameName a b = true) (hbc : sameName b c = true) :
    sameName a c = true :=
  beq_iff_eq.mpr ((beq_iff_eq.mp hab).trans (beq_iff_eq.mp hbc))

/-! ### Plain names -/

theorem trimChars_sublist (cs : List Char) : (trimChars cs).Sublist cs := by
  have hfront := List.dropWhile_sublist isBlank (l := cs)
  have hback := (List.dropWhile_sublist isBlank (l := (cs.dropWhile isBlank).reverse)).reverse
  rw [List.reverse_reverse] at hback
  exact hback.trans hfront

theorem unquoteChars_sublist (cs : List Char) : (unquoteChars cs).Sublist cs := by
  unfold unquoteChars
  split
  · exact .slnil
  · split
    · split
      · exact (List.dropLast_sublist _).trans (List.sublist_cons_self _ _)
      · exact .refl _
    · exact .refl _

/-! ### Names in any case -/

theorem hasCase_of_closingQuote? {c close : Char} (h : closingQuote? c = some close) :
    hasCase c = false ∧ hasCase close = false := by
  have hall : ∀ pair ∈ quotePairs, hasCase pair.1 = false ∧ hasCase pair.2 = false := by
    decide
  exact hall (c, close) (mem_quotePairs h)

theorem getLast?_lowerEach {close : Char} (h : hasCase close = false) (cs : List Char) :
    (lowerEach cs).getLast? = some close ↔ cs.getLast? = some close := by
  obtain rfl | ⟨init, last, rfl⟩ := List.eq_nil_or_concat cs
  · rfl
  · rw [List.concat_eq_append, lowerEach, List.flatMap_append, List.flatMap_singleton, List.getLast?_append,
      List.getLast?_concat, Option.some.injEq]
    obtain ⟨d, hd⟩ := Option.isSome_iff_exists.mp (List.getLast?_isSome.mpr (lowerChar_ne_nil last))
    rw [hd, Option.some_or, Option.some.injEq]
    constructor
    · rintro rfl
      exact eq_of_mem_lowerChar h (List.mem_of_getLast? hd)
    · rintro rfl
      rw [lowerChar_of_caseless h] at hd
      cases hd
      rfl

theorem lowerEach_unquoteChars (cs : List Char) : lowerEach (unquoteChars cs) = unquoteChars (lowerEach cs) := by
  cases cs with
  | nil => rfl
  | cons c rest =>
    obtain ⟨d, ds, hds⟩ := List.exists_cons_of_ne_nil (lowerChar_ne_nil c)
    have hlower : lowerEach (c :: rest) = d :: (ds ++ lowerEach rest) := by
      rw [lowerEach, List.flatMap_cons, hds]
      rfl
    cases hquote : closingQuote? c with
    | none =>
      have hd : closingQuote? d = none := by
        refine Option.eq_none_iff_forall_not_mem.mpr fun close hclose => ?_
        have hsame : c = d := eq_of_mem_lowerChar (hasCase_of_closingQuote? hclose).1 (hds ▸ List.mem_cons_self)
        rw [← hsame, hquote] at hclose
        cases hclose
      rw [hlower, unquoteChars, unquoteChars, hquote, hd]
      exact hlower
    | some close =>
      obtain ⟨hc, hclose⟩ := hasCase_of_closingQuote? hquote
      rw [lowerChar_of_caseless hc] at hds
      cases hds
      rw [hlower, List.nil_append, unquoteChars, unquoteChars, hquote]
      simp only [getLast?_lowerEach hclose]
      by_cases hlast : rest.getLast? = some close
      · obtain ⟨init, rfl⟩ := List.getLast?_eq_some_iff.mp hlast
        have hinit : lowerEach (init ++ [close]) = lowerEach init ++ [close] := by
          rw [lowerEach, List.flatMap_append, List.flatMap_singleton, lowerChar_of_caseless hclose]
          rfl
        rw [if_pos hlast, if_pos hlast, hinit, List.dropLast_concat, List.dropLast_concat]
      · rw [if_neg hlast, if_neg hlast]
        exact hlower

/-- Names that are the same but for case are read as the same but for case. -/
theorem sameName_unquote_trim {a b : String} (h : sameName a b = true) :
    sameName (unquote (trim a)) (unquote (trim b)) = true := by
  have hread : ∀ s : String, lowerEach (unquote (trim s)).toList = unquoteChars (trimChars (lowerEach s.toList)) :=
    fun s => by
      rw [unquote, String.toList_ofList, toList_trim, lowerEach_unquoteChars, lowerEach_trimChars]
  rw [sameName, beq_iff_eq] at h ⊢
  rw [hread, hread, h]

namespace Field
variable {field other : Field}

/-- A plain name has no white space and no quotes around it. -/
theorem IsPlain.unquote_trim (h : field.IsPlain) : unquote (trim field.name) = field.name := by
  have hname := (isPlain_iff.mp h).2
  -- Nothing is added on the way, so nothing is lost where the end is the beginning.
  have hchars := congrArg String.toList hname
  simp only [toList_trim, unquote, String.toList_ofList] at hchars
  have hinner := trimChars_sublist (unquoteChars (trimChars field.name.toList))
  have houter := (unquoteChars_sublist (trimChars field.name.toList)).trans (trimChars_sublist _)
  rw [hchars] at hinner
  apply String.toList_injective
  rw [unquote, String.toList_ofList, toList_trim]
  exact houter.eq_of_length_le hinner.length_le

theorem hasName_of_plain (h : field.IsPlain) : other.hasName field.name = sameName other.name field.name := by
  rw [hasName, h.unquote_trim]

end Field

/-! ### Sets -/

namespace FieldSet
variable {a b set : FieldSet} {field : Field}

theorem contains_iff {name : String} : set.contains name = true ↔ ∃ f ∈ set.fields, f.hasName name = true := by
  rw [contains_eq_any, List.any_eq_true]

theorem contains_eq_any_sameName {name : String} (h : Field.IsPlain { name }) :
    set.contains name = set.fields.any fun field => sameName field.name name := by
  rw [Bool.eq_iff_iff, contains_iff, List.any_eq_true]
  exact exists_congr fun field => and_congr_right fun _ => by rw [Field.hasName_of_plain h]

theorem contains_eq_false_iff {name : String} :
    set.contains name = false ↔ ∀ f ∈ set.fields, f.hasName name = false := by
  rw [contains_eq_any, List.any_eq_false]
  simp

theorem fields_filter (keep : Field → Bool) : (set.filter keep).fields = set.fields.filter keep := rfl

theorem fields_push (set : FieldSet) (field : Field) : (set.push field).fields =
    if set.contains field.name then set.fields else set.fields ++ [field] := by
  unfold push
  split <;> simp_all

theorem pairwise_sameName (h : ∀ f ∈ set.fields, f.IsPlain) :
    set.fields.Pairwise fun earlier later => sameName earlier.name later.name = false :=
  set.distinct.imp_of_mem fun _ hlater hdiffer => by
    rwa [Field.hasName_of_plain (h _ hlater)] at hdiffer

/-- The union has the fields of the first set and behind them those of the second whose names the first
    has not. -/
theorem fields_union (a b : FieldSet) : (a.union b).fields = a.fields ++ (b.diff a).fields := by
  suffices h : ∀ (fields : List Field) (set : FieldSet),
      fields.Pairwise (fun earlier later => earlier.hasName later.name = false) →
      (fields.foldl push set).fields =
        set.fields ++ fields.filter (fun field => !set.contains field.name) from
    h b.fields a b.distinct
  intro fields
  induction fields with
  | nil => simp
  | cons field fields ih =>
    intro set hdistinct
    rw [List.pairwise_cons] at hdistinct
    rw [List.foldl_cons, ih _ hdistinct.2]
    have hsame : fields.filter (fun f => !(set.push field).contains f.name) =
        fields.filter (fun f => !set.contains f.name) := by
      refine List.filter_congr fun f hf => ?_
      rw [contains_eq_any, contains_eq_any, fields_push]
      split
      · rfl
      · simp [hdistinct.1 f hf]
    rw [hsame, fields_push]
    cases h : set.contains field.name <;> simp [h]

/-! A list gathered into a set: every field of the set is one of the list, and every plain name of the list
    is in the set, perhaps in another case. -/

theorem mem_of_mem_ofList {l : List Field} (h : field ∈ (ofList l).fields) : field ∈ l := by
  suffices hmem : ∀ set : FieldSet, field ∈ (l.foldl push set).fields → field ∈ set.fields ∨ field ∈ l from
    (hmem empty h).resolve_left List.not_mem_nil
  clear h
  induction l with
  | nil => exact fun set h => Or.inl h
  | cons first l ih =>
    intro set h
    rcases ih (set.push first) h with h | h
    · rw [fields_push] at h
      split at h
      · exact Or.inl h
      · rcases List.mem_append.mp h with h | h
        · exact Or.inl h
        · cases List.mem_singleton.mp h
          exact Or.inr List.mem_cons_self
    · exact Or.inr (List.mem_cons_of_mem first h)

theorem contains_push (h : field.IsPlain) (set : FieldSet) : (set.push field).contains field.name = true := by
  rw [contains_eq_any, fields_push]
  split
  · rwa [← contains_eq_any]
  · rw [List.any_append, List.any_cons, Field.hasName_of_plain h, sameName_refl, Bool.true_or, Bool.or_true]

theorem contains_push_of_contains {name : String} (h : set.contains name = true) :
    (set.push field).contains name = true := by
  rw [contains_eq_any] at h ⊢
  rw [fields_push]
  split
  · exact h
  · rw [List.any_append, h, Bool.true_or]

theorem contains_ofList {l : List Field} (hf : field ∈ l) (hp : field.IsPlain) :
    (ofList l).contains field.name = true := by
  suffices hmem : ∀ set : FieldSet, set.contains field.name = true ∨ field ∈ l →
      (l.foldl push set).contains field.name = true from hmem empty (Or.inr hf)
  clear hf
  induction l with
  | nil => exact fun set h => h.resolve_right List.not_mem_nil
  | cons first l ih =>
    intro set h
    refine ih (set.push first) ?_
    rcases h with h | h
    · exact Or.inl (contains_push_of_contains h)
    · rcases List.mem_cons.mp h with rfl | h
      · exact Or.inl (contains_push hp set)
      · exact Or.inr h

end FieldSet

end CrudSql

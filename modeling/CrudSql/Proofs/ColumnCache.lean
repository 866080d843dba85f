import CrudSql.ColumnCache
import CrudSql.Proofs.Ident
import CrudSql.Proofs.Text.LowerCase

/-! A cache as a map of tables. After any sequence of calls a table has the columns that were stored last
    under its dotted name in lower case, unless they were removed later. Names whose parts have no dots
    name the same table exactly if they have the same parts but for case; a dot within a part is taken for
    one between parts. -/

namespace CrudSql
open Text

/-! ### Tables -/

namespace Ident
variable {ident other : Ident}

/-- The whole name, with dots between its parts. -/
def whole (ident : Ident) : String := ".".intercalate ident.parts

/-- The pieces of the whole name, which is cut at every dot: between the parts and within them. -/
def pieces (ident : Ident) : List String := (ident.whole.toList.splitOn '.').map String.ofList

theorem toList_whole (ident : Ident) : ident.whole.toList = ['.'].intercalate (ident.parts.map String.toList) :=
  String.toList_intercalate

/-- Without dots of their own the parts are the pieces. -/
theorem pieces_eq (h : ident.Lacks '.') (hne : ident.parts ≠ []) : ident.pieces = ident.parts := by
  have hcut : ident.whole.toList.splitOn '.' = ident.parts.map String.toList := by
    rw [toList_whole]
    refine List.splitOn_intercalate '.' (fun item hitem => ?_) (mt List.map_eq_nil_iff.mp hne)
    obtain ⟨part, hpart, rfl⟩ := List.mem_map.mp hitem
    exact h part hpart
  rw [pieces, hcut, List.map_map]
  simp

theorem capitalSigma_notMem_whole (h : ident.Lacks capitalSigma) : capitalSigma ∉ ident.whole.toList := by
  rw [toList_whole]
  intro hmem
  obtain hmem | ⟨item, hitem, hmem⟩ := mem_intercalate hmem
  · revert hmem
    decide
  · obtain ⟨part, hpart, rfl⟩ := List.mem_map.mp hitem
    exact h part hpart hmem

/-- Lower case goes into the pieces, and makes no dots. -/
theorem splitOn_lowerEach (cs : List Char) :
    (lowerEach cs).splitOn '.' = (cs.splitOn '.').map lowerEach := by
  have hdot : hasCase '.' = false := by
    decide
  have hjoin : ∀ items : List (List Char),
      lowerEach (['.'].intercalate items) = ['.'].intercalate (items.map lowerEach) := by
    intro items
    induction items with
    | nil => rfl
    | cons item items ih =>
      cases items with
      | nil => simp
      | cons next items =>
        have hcons : ['.'].intercalate ((item :: next :: items).map lowerEach) =
            lowerEach item ++ ['.'] ++ ['.'].intercalate ((next :: items).map lowerEach) :=
          List.intercalate_cons_cons
        rw [hcons, ← ih, List.intercalate_cons_cons]
        simp [lowerEach, lowerChar_of_caseless hdot]
  have hcs : ['.'].intercalate (cs.splitOn '.') = cs := List.intercalate_splitOn '.'
  rw [← hcs, hjoin, List.splitOn_intercalate '.', hcs]
  · intro item hitem
    obtain ⟨piece, hpiece, rfl⟩ := List.mem_map.mp hitem
    rw [mem_lowerEach_of_caseless hdot]
    exact notMem_of_mem_splitOn hpiece
  · exact mt List.map_eq_nil_iff.mp (List.splitOn_ne_nil '.' cs)

/-- Whole names are the same in lower case exactly if their pieces are the same but for case. -/
theorem lower_whole_eq_iff (hi : ident.Lacks capitalSigma) (ho : other.Lacks capitalSigma) :
    lower ident.whole = lower other.whole ↔
      List.Forall₂ (fun piece piece' => sameName piece piece' = true) ident.pieces other.pieces := by
  have hlower : ∀ {ident : Ident}, ident.Lacks capitalSigma →
      (lower ident.whole).toList = lowerEach ident.whole.toList := fun h => by
    rw [toList_lower, lowerChars, lowerAfter_eq_lowerEach (capitalSigma_notMem_whole h)]
  have hcut : ∀ a b : List Char, a = b ↔ a.splitOn '.' = b.splitOn '.' := fun a b =>
    ⟨congrArg _, fun h => by simpa using congrArg (['.'].intercalate ·) h⟩
  rw [← String.toList_inj, hlower hi, hlower ho, hcut, splitOn_lowerEach, splitOn_lowerEach, pieces, pieces,
    ← List.forall₂_eq_eq_eq, List.forall₂_map_left_iff, List.forall₂_map_right_iff,
    List.forall₂_map_left_iff, List.forall₂_map_right_iff]
  simp only [sameName, beq_iff_eq, String.toList_ofList]

end Ident

namespace ColumnCache

/-- A call that may change a cache. -/
inductive Change where
  | insert (table : String) (columns : Columns)
  | erase (table : String)

namespace Change

/-- The name that is given for the table. -/
def table : Change → String
  | insert table _ | erase table => table

/-- What the table has after the call. -/
def stored : Change → Option Columns
  | insert _ columns => some columns
  | erase _ => none

end Change

/-- The cache after a call. An insert that is refused leaves it as it is. -/
def change (cache : ColumnCache) : Change → ColumnCache
  | .insert table columns =>
    match cache.insert table columns with
    | .ok next => next
    | .error _ => cache
  | .erase table => cache.erase table

/-- The cache after calls on one that is empty. -/
def after (changes : List Change) : ColumnCache := changes.foldl change ⟨.empty⟩

/-- Two texts name identifiers whose whole names are the same in lower case. -/
def SameTable (a b : String) : Prop :=
  ∃ first second, Ident.parse a = .ok first ∧ Ident.parse b = .ok second ∧ lower first.whole = lower second.whole

variable {cache : ColumnCache} {table other : String} {columns : Columns} {call : Change}
  {changes : List Change}

theorem key_eq_ok_iff {key : String} :
    ColumnCache.key table = .ok key ↔ ∃ ident, Ident.parse table = .ok ident ∧ lower ident.whole = key := by
  simp only [ColumnCache.key, bind_eq_ok, pure_eq_ok]
  rfl

theorem sameTable_iff : SameTable table other ↔ ∃ k, key table = .ok k ∧ key other = .ok k := by
  simp only [key_eq_ok_iff]
  constructor
  · rintro ⟨first, second, hfirst, hsecond, hsame⟩
    exact ⟨_, ⟨first, hfirst, rfl⟩, second, hsecond, hsame.symm⟩
  · rintro ⟨k, ⟨first, hfirst, rfl⟩, second, hsecond, hsame⟩
    exact ⟨first, second, hfirst, hsecond, hsame.symm⟩

/-! ### One call -/

theorem get?_of_key {k : String} (h : key table = .ok k) :
    cache.get? table = (cache.tables.get? k).map (·.columns) := by
  rw [get?, h]

/-- The table that a call names has what the call says. -/
theorem get?_change_of_same (h : SameTable call.table table) : (cache.change call).get? table = call.stored := by
  obtain ⟨k, hcall, htable⟩ := sameTable_iff.mp h
  rw [get?_of_key htable]
  cases call with
  | insert name columns =>
    have hname : key name = .ok k := hcall
    simp [change, insert, hname, bind, Except.bind, pure, Except.pure, KeyMap.get?_insert, Change.stored]
  | erase name =>
    have hname : key name = .ok k := hcall
    simp [change, erase, hname, KeyMap.get?_erase, Change.stored]

/-- Every other table keeps what it has. -/
theorem get?_change_of_not_same (h : ¬SameTable call.table table) :
    (cache.change call).get? table = cache.get? table := by
  cases htable : key table with
  | error fault => simp [get?, htable]
  | ok k =>
    have hother : ∀ k', key call.table = .ok k' → k' ≠ k := by
      rintro k' hcall rfl
      exact h (sameTable_iff.mpr ⟨k', hcall, htable⟩)
    rw [get?_of_key htable, get?_of_key htable]
    cases call with
    | insert name columns =>
      cases hname : key name with
      | error fault => simp [change, insert, hname, bind, Except.bind]
      | ok k' =>
        simp [change, insert, hname, bind, Except.bind, pure, Except.pure, KeyMap.get?_insert, hother k' hname]
    | erase name =>
      cases hname : key name with
      | error fault => simp [change, erase, hname]
      | ok k' => simp [change, erase, hname, KeyMap.get?_erase, hother k' hname]

/-! ### All calls -/

open Classical in
/-- A table has what the last call that names it says. -/
theorem get?_after_eq : (after changes).get? table =
    (changes.reverse.find? fun call => SameTable call.table table).bind Change.stored := by
  rw [after, List.foldl_eq_foldr_reverse]
  induction changes.reverse with
  | nil =>
    unfold get?
    split <;> rfl
  | cons call calls ih =>
    rw [List.foldr_cons, List.find?_cons]
    by_cases h : SameTable call.table table
    · simp [h, get?_change_of_same h]
    · simp [h, get?_change_of_not_same h, ih]

theorem get?_after_eq_some_iff : (after changes).get? table = some columns ↔ ∃ earlier name later,
    changes = earlier ++ .insert name columns :: later ∧ SameTable name table ∧
      ∀ call ∈ later, ¬SameTable call.table table := by
  classical
  rw [get?_after_eq, Option.bind_eq_some_iff]
  simp only [List.find?_eq_some_iff_append]
  constructor
  · rintro ⟨call, ⟨hsame, later, earlier, hchanges, hlater⟩, hstored⟩
    cases call with
    | erase name => cases hstored
    | insert name given =>
      cases hstored
      refine ⟨earlier.reverse, name, later.reverse, ?_, of_decide_eq_true hsame, by simpa using hlater⟩
      rw [← List.reverse_inj, hchanges]
      simp
  · rintro ⟨earlier, name, later, rfl, hsame, hlater⟩
    refine ⟨.insert name columns, ⟨decide_eq_true hsame, later.reverse, earlier.reverse, by simp, ?_⟩, rfl⟩
    simpa using hlater

theorem SameTable.get?_eq (h : SameTable table other) (cache : ColumnCache) :
    cache.get? table = cache.get? other := by
  obtain ⟨k, htable, hother⟩ := sameTable_iff.mp h
  rw [get?_of_key htable, get?_of_key hother]

section Parts
variable {first second : Ident} (hfirst : Ident.parse table = .ok first) (hsecond : Ident.parse other = .ok second)

include hfirst hsecond

theorem sameTable_iff_pieces (hf : first.Lacks capitalSigma) (hs : second.Lacks capitalSigma) :
    SameTable table other ↔
      List.Forall₂ (fun piece piece' => sameName piece piece' = true) first.pieces second.pieces := by
  rw [← Ident.lower_whole_eq_iff hf hs]
  constructor
  · rintro ⟨i, j, hi, hj, hsame⟩
    cases hfirst.symm.trans hi
    cases hsecond.symm.trans hj
    exact hsame
  · exact fun hsame => ⟨first, second, hfirst, hsecond, hsame⟩

theorem sameTable_iff_parts (hf : first.Lacks capitalSigma) (hs : second.Lacks capitalSigma) (hfd : first.Lacks '.')
    (hsd : second.Lacks '.') : SameTable table other ↔
      List.Forall₂ (fun part part' => sameName part part' = true) first.parts second.parts := by
  rw [sameTable_iff_pieces hfirst hsecond hf hs, Ident.pieces_eq hfd (Ident.isProper_of_parse hfirst).parts_ne_nil,
    Ident.pieces_eq hsd (Ident.isProper_of_parse hsecond).parts_ne_nil]

end Parts

/-- After any calls a table has the columns of the last insert that named it, if no erasure named it later,
    and otherwise none. An insert that is refused and the erasure of an unknown table change nothing. Texts
    name one table if their whole names are the same in lower case; without capital sigmas that is if the
    pieces between all dots are the same but for case, so if the parts are where none has a dot. -/
theorem latest_of_after (changes : List Change) (table : String) :
    (∀ columns, (after changes).get? table = some columns ↔ ∃ earlier name later,
      changes = earlier ++ .insert name columns :: later ∧ SameTable name table ∧
        ∀ call ∈ later, ¬SameTable call.table table) ∧
    (∀ name columns fault, (after changes).insert name columns = .error fault →
      (after (changes ++ [.insert name columns])).get? table = (after changes).get? table) ∧
    (∀ name, (after changes).get? name = none →
      (after (changes ++ [.erase name])).get? table = (after changes).get? table) ∧
    ∀ name first second, Ident.parse name = .ok first → Ident.parse table = .ok second →
      first.Lacks capitalSigma → second.Lacks capitalSigma →
        (SameTable name table ↔
          List.Forall₂ (fun piece piece' => sameName piece piece' = true) first.pieces second.pieces) ∧
        (first.Lacks '.' → second.Lacks '.' → (SameTable name table ↔
          List.Forall₂ (fun part part' => sameName part part' = true) first.parts second.parts)) := by
  have hsnoc : ∀ call, after (changes ++ [call]) = (after changes).change call := fun call => by
    rw [after, List.foldl_append]
    rfl
  refine ⟨fun columns => get?_after_eq_some_iff, fun name columns fault hrefused => ?_, fun name hnone => ?_,
    fun name first second hfirst hsecond hf hs =>
      ⟨sameTable_iff_pieces hfirst hsecond hf hs, sameTable_iff_parts hfirst hsecond hf hs⟩⟩
  · rw [hsnoc, change, hrefused]
  · rw [hsnoc]
    by_cases hsame : SameTable name table
    · -- The unknown table is the one that is looked up.
      have herased : ((after changes).change (.erase name)).get? table = none := get?_change_of_same hsame
      rw [herased, ← hsame.get?_eq, hnone]
    · exact get?_change_of_not_same hsame

/-- A table is found in other quotes and in another case, also after one of its last part alone is erased. -/
theorem latest_of_after_quoted :
    let columns : Columns := ⟨[{ name := "x" }]⟩
    Ident.parse "dbo.Person" = .ok ⟨["dbo", "Person"]⟩ ∧ Ident.parse "[DBO].[PERSON]" = .ok ⟨["DBO", "PERSON"]⟩ ∧
      (after [.insert "dbo.Person" columns, .erase "Person"]).get? "[DBO].[PERSON]" = some columns := by
  intro columns
  have hgiven : Ident.parse "dbo.Person" = .ok ⟨["dbo", "Person"]⟩ := by
    with_unfolding_all decide
  have hquoted : Ident.parse "[DBO].[PERSON]" = .ok ⟨["DBO", "PERSON"]⟩ := by
    with_unfolding_all decide
  have hshort : Ident.parse "Person" = .ok ⟨["Person"]⟩ := by
    with_unfolding_all decide
  obtain ⟨hlatest, -, -, hsame⟩ :=
    latest_of_after [.insert "dbo.Person" columns, .erase "Person"] "[DBO].[PERSON]"
  have hfound := (hsame _ _ _ hgiven hquoted (by decide) (by decide)).2 (by decide) (by decide)
  have hother := (hsame _ _ _ hshort hquoted (by decide) (by decide)).2 (by decide) (by decide)
  refine ⟨hgiven, hquoted, (hlatest columns).mpr ⟨[], _, _, rfl, hfound.mpr ?_, ?_⟩⟩
  · decide
  · refine List.forall_mem_singleton.mpr fun h => ?_
    cases hother.mp h with
    | cons _ hrest => cases hrest

/-- A name with a dot in its only part finds the columns of a table in a schema. -/
theorem dotted_part_mistaken :
    let columns : Columns := ⟨[{ name := "x" }]⟩
    Ident.parse "a.b" = .ok ⟨["a", "b"]⟩ ∧ Ident.parse "[a.b]" = .ok ⟨["a.b"]⟩ ∧
      (after [.insert "a.b" columns]).get? "[a.b]" = some columns := by
  intro columns
  have hschema : Ident.parse "a.b" = .ok ⟨["a", "b"]⟩ := by
    with_unfolding_all decide
  have hpart : Ident.parse "[a.b]" = .ok ⟨["a.b"]⟩ := by
    with_unfolding_all decide
  refine ⟨hschema, hpart, get?_after_eq_some_iff.mpr ⟨[], "a.b", [], rfl, ⟨_, _, hschema, hpart, ?_⟩, by simp⟩⟩
  decide

end ColumnCache

end CrudSql

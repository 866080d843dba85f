import Mathlib.Data.List.FinRange
import CrudSql.Proofs.Check

/-! The check of names, for fields of any names. A field counts as the one that has its key already if it
    is found under that one's name, without the quotes around the name. That never happens for two fields
    of a set: quotes and white space around a name become underscores of its parameter, and a number, which
    has the same digits in the same keys, cannot make up for them. -/

namespace CrudSql
open Text

/-! ### Digits -/

/-- The number of digits in a text. -/
def digitCount (cs : List Char) : Nat := cs.countP Char.isDigit

theorem digitCount_append (a b : List Char) : digitCount (a ++ b) = digitCount a + digitCount b :=
  List.countP_append

/-- A digit stands in names of parameters, has no case and is no white space. -/
theorem spec_of_isDigit {c : Char} (h : c.isDigit = true) :
    isParameterChar c = true ∧ hasCase c = false ∧ isBlank c = false := by
  have hall : ∀ c ∈ "0123456789".toList, isParameterChar c = true ∧ hasCase c = false ∧ isBlank c = false :=
    List.forall_iff_forall_mem.mp (by decide)
  exact hall c (mem_digits_of_isDigit h)

theorem digitCount_lowerChar (c : Char) : digitCount (lowerChar c) = digitCount [c] := by
  by_cases h : c.isDigit = true
  · rw [lowerChar_of_caseless (spec_of_isDigit h).2.1]
  · have hnone : ∀ d ∈ lowerChar c, ¬d.isDigit = true := by
      intro d hd hdigit
      rw [eq_of_mem_lowerChar (spec_of_isDigit hdigit).2.1 hd] at h
      exact h hdigit
    rw [digitCount, List.countP_eq_zero.mpr hnone]
    simp [digitCount, h]

theorem digitCount_lowerEach (cs : List Char) : digitCount (lowerEach cs) = digitCount cs := by
  induction cs with
  | nil => rfl
  | cons c cs ih =>
    rw [lowerEach, List.flatMap_cons, ← lowerEach, digitCount_append, digitCount_lowerChar, ih,
      ← digitCount_append]
    rfl

theorem digitCount_lowerAfter (before cs : List Char) : digitCount (lowerAfter before cs) = digitCount cs := by
  have hsigma : ∀ final : Bool,
      digitCount [Char.ofNat (if final then 0x3c2 else 0x3c3)] = digitCount [capitalSigma] := by
    decide
  induction cs generalizing before with
  | nil => rfl
  | cons c cs ih =>
    rw [lowerAfter, digitCount_append, ih]
    show _ = digitCount ([c] ++ cs)
    rw [digitCount_append]
    congr 1
    split
    · rename_i h
      rw [h]
      exact hsigma _
    · exact digitCount_lowerChar c

theorem digitCount_parameterBase (text : String) :
    digitCount (parameterBase text).toList = digitCount text.toList := by
  rw [digitCount, digitCount, parameterBase, String.toList_map, List.countP_map]
  refine List.countP_congr fun c _ => ?_
  rw [Function.comp_apply]
  split
  · rfl
  · rename_i h
    exact iff_of_false (by decide) fun hdigit => h (spec_of_isDigit hdigit).1

theorem digitCount_trimChars (cs : List Char) : digitCount (trimChars cs) = digitCount cs := by
  have hdrop : ∀ cs : List Char, digitCount (cs.dropWhile isBlank) = digitCount cs := by
    intro cs
    induction cs with
    | nil => rfl
    | cons c cs ih =>
      by_cases h : isBlank c = true
      · have hc : ¬c.isDigit = true := fun hdigit => by
          rw [(spec_of_isDigit hdigit).2.2] at h
          cases h
        rw [List.dropWhile_cons_of_pos h, ih, digitCount, digitCount, List.countP_cons_of_neg hc]
      · rw [List.dropWhile_cons_of_neg h]
  have hreverse : ∀ cs : List Char, digitCount cs.reverse = digitCount cs := fun cs => List.countP_reverse
  rw [trimChars, hreverse, hdrop, hreverse, hdrop]

theorem digitCount_unquoteChars (cs : List Char) : digitCount (unquoteChars cs) = digitCount cs := by
  have hquotes : ∀ pair ∈ quotePairs, ¬pair.1.isDigit = true ∧ ¬pair.2.isDigit = true := by
    decide
  unfold unquoteChars
  split
  · rfl
  · rename_i c rest
    split
    · rename_i close hclose
      obtain ⟨hc, hclose⟩ := hquotes _ (mem_quotePairs hclose)
      split
      · rename_i hlast
        obtain ⟨init, rfl⟩ := List.getLast?_eq_some_iff.mp hlast
        rw [List.dropLast_concat, digitCount, digitCount, List.countP_cons_of_neg hc, List.countP_append,
          List.countP_cons_of_neg hclose, List.countP_nil, Nat.add_zero]
      · rfl
    · rfl

/-- White space and quotes around a name are no digits. -/
theorem digitCount_unquote_trim (name : String) :
    digitCount (unquote (trim name)).toList = digitCount name.toList := by
  rw [unquote, String.toList_ofList, digitCount_unquoteChars, toList_trim, digitCount_trimChars]

/-! ### Numbers behind a name -/

/-- What the parameter of a row has behind the name. -/
def numbering (row : Nat) : List Char := if row = 0 then [] else '_' :: Nat.toDigits 10 row

theorem toList_rowParameter (column : String) (row : Nat) :
    (rowParameter column row).toList = (parameterBase column).toList ++ numbering row := by
  unfold rowParameter numbering
  split
  · rw [List.append_nil]
  · rw [toList_numbered]

/-- A number is as long as its digits are many, and the first row alone has none. -/
theorem length_numbering (row : Nat) :
    (numbering row).length = digitCount (numbering row) + (if digitCount (numbering row) = 0 then 0 else 1) := by
  unfold numbering
  split
  · rfl
  · have hdigits : digitCount ('_' :: Nat.toDigits 10 row) = (Nat.toDigits 10 row).length := by
      rw [digitCount, List.countP_cons_of_neg (by decide), List.countP_eq_length]
      exact fun c hc => Nat.isDigit_of_mem_toDigits (by omega) (by omega) hc
    rw [hdigits, if_neg Nat.length_toDigits_pos.ne', List.length_cons]

theorem lowerEach_numbering (row : Nat) : lowerEach (numbering row) = numbering row := by
  have hkept : ∀ c ∈ numbering row, lowerChar c = [c] := by
    intro c hc
    unfold numbering at hc
    split at hc
    · cases hc
    · refine (isWordEnd_of_numbering ((List.mem_cons.mp hc).imp_right fun hc => ?_)).2
      exact Nat.isDigit_of_mem_toDigits (by omega) (by omega) hc
  rw [lowerEach, List.flatMap_congr hkept, List.flatMap_singleton']

namespace Check
variable {setting : Setting} {owners owners' : Owners} {seen rest : List Place} {place : Place} {set : FieldSet}
  {earlier later : Field} {i j rows : Nat} {fault : Fault}

/-! ### Two fields with one key -/

theorem toList_key (setting : Setting) (place : Place) : (key setting place).toList =
    lowerChars (setting.parameterMark :: ((parameterBase place.2.name).toList ++ numbering place.1)) := by
  rw [key, toList_lower, String.toList_append, String.toList_ofList, toList_rowParameter, List.singleton_append]

theorem digitCount_key (setting : Setting) (place : Place) : digitCount (key setting place).toList =
    digitCount [setting.parameterMark] + (digitCount place.2.name.toList + digitCount (numbering place.1)) := by
  rw [toList_key, lowerChars, digitCount_lowerAfter, ← List.singleton_append, digitCount_append,
    digitCount_append, digitCount_parameterBase]

theorem length_key (setting : Setting) (place : Place) : (key setting place).toList.length =
    (lowerChar setting.parameterMark).length +
      ((lowerEach place.2.name.toList).length + (numbering place.1).length) := by
  rw [toList_key, lowerChars, length_lowerAfter, lowerEach, List.flatMap_cons, List.flatMap_append,
    ← lowerEach, ← lowerEach, List.length_append, List.length_append, lowerEach_numbering,
    length_lowerEach_parameterBase]

/-- A field that is found under the name of another, and has its key in some row, is found under that name as
    it stands. -/
theorem unquote_trim_eq_of_key (hname : later.hasName earlier.name = true)
    (hkey : key setting (i, earlier) = key setting (j, later)) : unquote (trim earlier.name) = earlier.name := by
  have hread : (unquote (trim earlier.name)).toList.Sublist earlier.name.toList := by
    rw [unquote, String.toList_ofList, toList_trim]
    exact (unquoteChars_sublist _).trans (trimChars_sublist _)
  have hsame : lowerEach later.name.toList = lowerEach (unquote (trim earlier.name)).toList :=
    beq_iff_eq.mp hname
  -- The names have the same digits, so the numbers behind them are equally long.
  have hdigits : digitCount later.name.toList = digitCount earlier.name.toList := by
    rw [← digitCount_lowerEach, hsame, digitCount_lowerEach, digitCount_unquote_trim]
  have hcount := congrArg (fun k => digitCount k.toList) hkey
  simp only [digitCount_key, hdigits] at hcount
  have hnumbering : (numbering i).length = (numbering j).length := by
    rw [length_numbering, length_numbering, show digitCount (numbering i) = digitCount (numbering j) by omega]
  have hlength := congrArg (fun k => k.toList.length) hkey
  simp only [length_key, hnumbering, hsame] at hlength
  by_contra hne
  have hlt := length_lowerEach_lt hread fun heq => hne (String.toList_injective heq)
  omega

/-- Of two fields with one key, neither is found under the other's name alone. -/
theorem hasName_of_key (hname : later.hasName earlier.name = true)
    (hkey : key setting (i, earlier) = key setting (j, later)) : earlier.hasName later.name = true := by
  have hread := unquote_trim_eq_of_key hname hkey
  rw [Field.hasName, hread] at hname
  have hboth := sameName_unquote_trim hname
  rw [hread, sameName_comm] at hboth
  exact hboth

/-- No two fields of a set that count as the same have the same key, in whatever rows. -/
theorem unshared (set : FieldSet) (setting : Setting) (rows : Nat) :
    Unshared setting (places set.fields rows) := by
  refine List.pairwise_flatMap.mpr ⟨fun row _ => ?_, ?_⟩
  · refine List.pairwise_map.mpr (set.distinct.imp fun hdiffer hname hkey => ?_)
    rw [hasName_of_key hname hkey] at hdiffer
    cases hdiffer
  · refine List.nodup_range.imp fun hrows => ?_
    rintro _ hx _ hy hname hkey
    obtain ⟨earlier, hearlier, rfl⟩ := List.mem_map.mp hx
    obtain ⟨later, hlater, rfl⟩ := List.mem_map.mp hy
    by_cases heq : earlier = later
    · subst heq
      exact hrows (key_injective hkey)
    · have : Std.Symm fun a b : Field => a.hasName b.name = false ∨ b.hasName a.name = false :=
        ⟨fun _ _ => Or.symm⟩
      have hdiffer := (set.distinct.imp (S := fun a b => a.hasName b.name = false ∨ b.hasName a.name = false)
        Or.inl).forall hearlier hlater heq
      rw [hname, hasName_of_key hname hkey] at hdiffer
      rcases hdiffer with hdiffer | hdiffer <;> cases hdiffer

/-- The check passes exactly if every place has a key of its own. -/
theorem parameterNames_eq_ok_iff : parameterNames setting set rows = .ok () ↔
    ((places set.fields rows).map (key setting)).Nodup := by
  have hnone : Owned setting ∅ [] := fun k => by simp
  have hnil : [] ++ places set.fields rows = places set.fields rows := List.nil_append _
  have hu : Unshared setting ([] ++ places set.fields rows) := unshared set setting rows
  rw [← hnil, ← hnone.foldlM_ok_iff hu .nil, parameterNames, foldlM_places]
  simp only [bind_eq_ok, pure_eq_ok, and_true]

/-- Whether the check passes can be told from the keys alone, without the owners. -/
instance : Decidable (parameterNames setting set rows = .ok ()) := decidable_of_iff' _ parameterNames_eq_ok_iff

/-! ### Refusals -/

/-- A key that is claimed again is refused for the place that had it first, unless the field is found under
    the name of that place's field. -/
theorem Owned.claim_eq_error (h : Owned setting owners seen)
    (hclaim : claim setting place.1 owners place.2 = .error fault) :
    ∃ first ∈ seen, key setting first = key setting place ∧
      fault = .parametersCollide (String.ofList [setting.parameterMark] ++ rowParameter place.2.name place.1)
        place.2.name first.2.name := by
  have howner : owners[key setting place]? = _ := h (key setting place)
  simp only [claim] at hclaim
  rw [show owners[lower _]? = _ from howner] at hclaim
  cases hfirst : seen.find? fun p => key setting p == key setting place with
  | none =>
    rw [hfirst] at hclaim
    cases hclaim
  | some first =>
    refine ⟨first, List.mem_of_find?_eq_some hfirst, by simpa using List.find?_some hfirst, ?_⟩
    rw [hfirst, Option.map_some] at hclaim
    dsimp only at hclaim
    split at hclaim
    · cases hclaim
    · cases hclaim
      rfl

/-- Where the places differ from each other or are refused, a claim that is accepted adds a place that was not
    there. -/
theorem Owned.claim_eq_ok (h : Owned setting owners seen) (hu : Unshared setting (seen ++ place :: rest))
    (hclaim : claim setting place.1 owners place.2 = .ok owners') : Owned setting owners' (seen ++ [place]) := by
  have hfresh : key setting place ∉ seen.map (key setting) := by
    refine fun hk => h.claim_taken hk (fun p hp hpk => Bool.eq_false_iff.mpr fun hname => ?_) owners' hclaim
    exact (List.pairwise_append.mp hu).2.2 p hp place List.mem_cons_self hname hpk
  obtain ⟨claimed, hclaimed, howned⟩ := h.claim_fresh hfresh
  rw [hclaim] at hclaimed
  cases hclaimed
  exact howned

/-- The rest is refused at a place whose key was seen before it. -/
theorem Owned.foldlM_eq_error (h : Owned setting owners seen) (hu : Unshared setting (seen ++ rest))
    (hfold : rest.foldlM (fun owners place => claim setting place.1 owners place.2) owners = .error fault) :
    ∃ before place after, rest = before ++ place :: after ∧ ∃ first ∈ seen ++ before,
      key setting first = key setting place ∧
      fault = .parametersCollide (String.ofList [setting.parameterMark] ++ rowParameter place.2.name place.1)
        place.2.name first.2.name := by
  induction rest generalizing owners seen with
  | nil => cases hfold
  | cons place rest ih =>
    rw [List.foldlM_cons] at hfold
    cases hclaim : claim setting place.1 owners place.2 with
    | error refused =>
      rw [hclaim] at hfold
      cases hfold
      obtain ⟨first, hfirst, hkey, hfault⟩ := h.claim_eq_error hclaim
      exact ⟨[], place, rest, rfl, first, by simpa using hfirst, hkey, hfault⟩
    | ok owners' =>
      rw [hclaim] at hfold
      have happend : seen ++ place :: rest = seen ++ [place] ++ rest := by simp
      obtain ⟨before, next, after, rfl, first, hfirst, hkey, hfault⟩ :=
        ih (h.claim_eq_ok hu hclaim) (happend ▸ hu) hfold
      exact ⟨place :: before, next, after, rfl, first, by simpa using hfirst, hkey, hfault⟩

/-! ### Fields by their positions -/

/-- The rows and the positions of the fields. -/
def positions (set : FieldSet) (rows : Nat) : List (Nat × Fin set.fields.length) :=
  List.range rows ×ˢ List.finRange set.fields.length

/-- The field at a position, in a row. -/
def placeAt (set : FieldSet) (position : Nat × Fin set.fields.length) : Place :=
  (position.1, set.fields[position.2])

theorem places_eq_map (set : FieldSet) (rows : Nat) :
    places set.fields rows = (positions set rows).map (placeAt set) := by
  have hfields : ∀ row, set.fields.map (fun field => (row, field)) =
      (List.finRange set.fields.length).map fun k => placeAt set (row, k) := by
    intro row
    conv_lhs => rw [← List.map_get_finRange set.fields]
    rw [List.map_map]
    rfl
  rw [places, positions]
  simp only [hfields, SProd.sprod, List.product, List.map_flatMap, List.map_map, Function.comp_def]

theorem mem_positions {position : Nat × Fin set.fields.length} :
    position ∈ positions set rows ↔ position.1 < rows := by
  rw [positions, List.mem_product, List.mem_range]
  exact and_iff_left (List.mem_finRange _)

theorem nodup_positions (set : FieldSet) (rows : Nat) : (positions set rows).Nodup :=
  List.nodup_range.product (List.nodup_finRange _)

/-- A refusal names the fields at two positions in rows of the batch. -/
theorem exists_of_parameterNames_error (h : parameterNames setting set rows = .error fault) :
    ∃ first second : Nat × Fin set.fields.length, first.1 < rows ∧ second.1 < rows ∧ first ≠ second ∧
      key setting (placeAt set first) = key setting (placeAt set second) ∧
      fault = .parametersCollide
        (String.ofList [setting.parameterMark] ++ rowParameter set.fields[second.2].name second.1)
        set.fields[second.2].name set.fields[first.2].name := by
  have hfold : (places set.fields rows).foldlM (fun owners place => claim setting place.1 owners place.2) ∅ =
      .error fault := by
    rw [parameterNames, foldlM_places] at h
    cases hrun : (places set.fields rows).foldlM (fun owners place => claim setting place.1 owners place.2) ∅ with
    | error refused =>
      rw [hrun] at h
      cases h
      rfl
    | ok owners =>
      rw [hrun] at h
      cases h
  have hnone : Owned setting ∅ [] := fun k => by simp
  have hu : Unshared setting ([] ++ places set.fields rows) := unshared set setting rows
  rw [places_eq_map] at hu hfold
  obtain ⟨before, place, after, hsplit, first, hfirst, hkey, hfault⟩ := hnone.foldlM_eq_error hu hfold
  rw [List.map_eq_append_iff] at hsplit
  obtain ⟨front, back, hpositions, rfl, hback⟩ := hsplit
  obtain ⟨second, behind, rfl, rfl, -⟩ := List.map_eq_cons_iff.mp hback
  obtain ⟨first, hfront, rfl⟩ := List.mem_map.mp hfirst
  have hnodup := nodup_positions set rows
  rw [hpositions, List.nodup_append] at hnodup
  have hmem : ∀ position ∈ front ++ second :: behind, position.1 < rows := fun position h =>
    mem_positions.mp (hpositions ▸ h)
  exact ⟨first, second, hmem _ (List.mem_append_left _ hfront),
    hmem _ (List.mem_append_right _ List.mem_cons_self), hnodup.2.2 _ hfront _ List.mem_cons_self, hkey, hfault⟩

/-- The check of names is exact: it passes exactly if no two fields, at whatever positions and in whatever rows
    of the batch, have the same parameter but for case. When it is refused, the two fields that it names are at
    two positions and have the same parameter but for case in rows of the batch. -/
theorem parameterNames_exact (setting : Setting) (set : FieldSet) (rows : Nat) :
    (parameterNames setting set rows = .ok () ↔
      ∀ (i j : Nat) (k l : Fin set.fields.length), i < rows → j < rows → (i, k) ≠ (j, l) →
        key setting (i, set.fields[k]) ≠ key setting (j, set.fields[l])) ∧
    ∀ fault, parameterNames setting set rows = .error fault →
      ∃ (i j : Nat) (k l : Fin set.fields.length), i < rows ∧ j < rows ∧ k ≠ l ∧
        key setting (i, set.fields[k]) = key setting (j, set.fields[l]) ∧
        fault = .parametersCollide
          (String.ofList [setting.parameterMark] ++ rowParameter set.fields[k].name i)
          set.fields[k].name set.fields[l].name := by
  constructor
  · rw [parameterNames_eq_ok_iff, places_eq_map, List.map_map,
      List.nodup_map_iff_inj_on (nodup_positions set rows)]
    constructor
    · intro h i j k l hi hj hne hkey
      exact hne (h (i, k) (mem_positions.mpr hi) (j, l) (mem_positions.mpr hj) hkey)
    · rintro h ⟨i, k⟩ hi ⟨j, l⟩ hj hkey
      by_contra hne
      exact h i j k l (mem_positions.mp hi) (mem_positions.mp hj) hne hkey
  · intro fault hfault
    obtain ⟨⟨j, l⟩, ⟨i, k⟩, hj, hi, hne, hkey, rfl⟩ := exists_of_parameterNames_error hfault
    refine ⟨i, j, k, l, hi, hj, ?_, hkey.symm, rfl⟩
    rintro rfl
    exact hne (Prod.ext (key_injective hkey) rfl)

end Check

end CrudSql

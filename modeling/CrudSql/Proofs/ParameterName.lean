import Mathlib.Data.Finset.Card
import Mathlib.Data.Finset.Prod
import Mathlib.Data.Nat.Find
import CrudSql.ParameterName
import CrudSql.Proofs.Text.LowerCase

/-! Names of parameters, as they are compared but for case. Two numbers never give the same name with the
    same ending; so each taken name refuses one candidate for each ending, and the search for a free name
    ends. -/

namespace CrudSql
open Text

section Characters
variable {c : Char} {base : String}

theorem isParameterChar_of_isDigit (h : c.isDigit = true) : isParameterChar c = true := by
  have hlt : c.toNat < 128 := by
    simp only [Char.isDigit, Bool.and_eq_true, decide_eq_true_eq] at h
    have := h.2
    simp only [Char.toNat, UInt32.le_iff_toNat_le] at this ⊢
    exact Nat.lt_of_le_of_lt this (by decide)
  simp [isParameterChar, isAlphanumeric, hlt, Char.isAlphanum, h]

theorem isParameterChar_parameterBase (text : String) :
    ∀ c ∈ (parameterBase text).toList, isParameterChar c = true := by
  intro c hc
  rw [parameterBase, String.toList_map] at hc
  obtain ⟨d, -, rfl⟩ := List.mem_map.mp hc
  by_cases hd : isParameterChar d = true
  · rwa [if_pos hd]
  · rw [if_neg hd]
    rfl

/-- Only letters have a lower case of another length, and no letter is replaced. -/
theorem length_lowerEach_parameterBase (text : String) :
    (lowerEach (parameterBase text).toList).length = (lowerEach text.toList).length := by
  have hdotted : isParameterChar (Char.ofNat 0x130) = true := by
    decide +kernel
  have hunderscore : (lowerChar '_').length = 1 := by
    decide +kernel
  have hchar : ∀ c, (lowerChar (if isParameterChar c then c else '_')).length = (lowerChar c).length := by
    intro c
    split
    · rfl
    · rename_i hc
      rw [hunderscore, length_lowerChar fun heq => hc ?_]
      rwa [← Char.ofNat_toNat c, heq]
  rw [parameterBase, String.toList_map, lowerEach, lowerEach, List.flatMap_map, List.length_flatMap,
    List.length_flatMap]
  simp only [hchar]

/-- A name with a number behind it. -/
theorem toList_numbered (base : String) (n : Nat) :
    s!"{base}_{n}".toList = base.toList ++ '_' :: Nat.toDigits 10 n := by
  show (base ++ "_" ++ toString n).toList = _
  simp

theorem isParameterChar_numbered (h : ∀ c ∈ base.toList, isParameterChar c = true) (n : Nat) :
    ∀ c ∈ s!"{base}_{n}".toList, isParameterChar c = true := by
  intro c hc
  rw [toList_numbered, List.mem_append, List.mem_cons] at hc
  rcases hc with hc | rfl | hc
  · exact h c hc
  · rfl
  · exact isParameterChar_of_isDigit (Nat.isDigit_of_mem_toDigits (by omega) (by omega) hc)

theorem isParameterChar_candidate (h : ∀ c ∈ base.toList, isParameterChar c = true) (n : Nat) :
    ∀ c ∈ (TakenNames.candidate base n).toList, isParameterChar c = true := by
  rw [TakenNames.candidate]
  split
  · exact h
  · exact isParameterChar_numbered h n

/-- In one row, columns have the same parameter if their names suggest the same. -/
theorem rowParameter_inj {a b : String} {row : Nat} :
    rowParameter a row = rowParameter b row ↔ parameterBase a = parameterBase b := by
  refine ⟨fun h => ?_, fun h => by rw [rowParameter, rowParameter, h]⟩
  unfold rowParameter at h
  split at h
  · exact h
  · have h := congrArg String.toList h
    rw [toList_numbered, toList_numbered] at h
    exact String.toList_injective (List.append_cancel_right h)

theorem isParameterChar_rowParameter (column : String) (row : Nat) :
    ∀ c ∈ (rowParameter column row).toList, isParameterChar c = true :=
  isParameterChar_candidate (isParameterChar_parameterBase column) row

end Characters

/-! ### Lower case of numbered names -/

section LowerCase
variable {base ending : String} {m n : Nat}

theorem mem_digits_of_isDigit {c : Char} (h : c.isDigit = true) : c ∈ "0123456789".toList := by
  have hle : 48 ≤ c.toNat ∧ c.toNat ≤ 57 := by
    simpa [Char.isDigit, UInt32.le_iff_toNat_le] using h
  have : c.toNat ∈ List.range' 48 10 := List.mem_range'_1.mpr ⟨hle.1, by omega⟩
  rw [← Char.ofNat_toNat c]
  generalize c.toNat = k at this
  revert k
  decide

/-- Words end at underscores and digits, which are their own lower case. -/
theorem isWordEnd_of_numbering {c : Char} (h : c = '_' ∨ c.isDigit = true) :
    IsWordEnd c ∧ lowerChar c = [c] := by
  have hall : ∀ c ∈ "_0123456789".toList, isCased c = false ∧ isCaseIgnorable c = false ∧
      c ≠ capitalSigma ∧ lowerChar c = [c] :=
    List.forall_iff_forall_mem.mp (by decide +kernel)
  have hmem : c ∈ "_0123456789".toList := by
    rcases h with rfl | h
    · exact List.mem_cons_self
    · exact List.mem_cons_of_mem _ (mem_digits_of_isDigit h)
  obtain ⟨h₁, h₂, h₃, h₄⟩ := hall c hmem
  exact ⟨⟨h₁, h₂, h₃⟩, h₄⟩

theorem lowerChars_numbered (base : List Char) (n : Nat) (rest : List Char) :
    lowerChars (base ++ '_' :: (Nat.toDigits 10 n ++ rest)) =
      lowerChars base ++ '_' :: (Nat.toDigits 10 n ++ lowerChars rest) := by
  have hend := isWordEnd_of_numbering (.inl rfl : '_' = '_' ∨ _)
  rw [hend.1.lowerChars_append, hend.2, lowerChars_append_of_wordEnds fun c hc =>
    isWordEnd_of_numbering (.inr (Nat.isDigit_of_mem_toDigits (by omega) (by omega) hc))]
  rfl

theorem toDigits_injective (h : Nat.toDigits 10 m = Nat.toDigits 10 n) : m = n := by
  rw [← Nat.ofDigitChars_ten_toDigits (n := m), h, Nat.ofDigitChars_ten_toDigits]

theorem toList_lower_numbered (base ending : String) (n : Nat) :
    (lower (s!"{base}_{n}" ++ ending)).toList =
      lowerChars base.toList ++ '_' :: (Nat.toDigits 10 n ++ lowerChars ending.toList) := by
  rw [toList_lower, String.toList_append, toList_numbered, List.append_assoc, List.cons_append,
    lowerChars_numbered]

/-- Numbers behind the same name are told apart, whatever follows. -/
theorem lower_numbered_injective
    (h : lower (s!"{base}_{m}" ++ ending) = lower (s!"{base}_{n}" ++ ending)) : m = n := by
  have h := congrArg String.toList h
  rw [toList_lower_numbered, toList_lower_numbered] at h
  have h := List.cons.inj (List.append_cancel_left h)
  exact toDigits_injective (List.append_cancel_right h.2)

theorem length_lower_numbered : (lower (base ++ ending)).toList.length <
    (lower (s!"{base}_{n}" ++ ending)).toList.length := by
  rw [toList_lower_numbered, toList_lower, String.toList_append, length_lowerChars_append]
  simp only [List.length_append, List.length_cons]
  omega

/-- Two candidates with the same ending are the same but for case only if they are the same. -/
theorem lower_candidate_injective (h : lower (TakenNames.candidate base m ++ ending) =
    lower (TakenNames.candidate base n ++ ending)) : m = n := by
  unfold TakenNames.candidate at h
  split at h <;> split at h
  · omega
  · exact absurd (congrArg (·.toList.length) h) length_lower_numbered.ne
  · exact absurd (congrArg (·.toList.length) h) length_lower_numbered.ne'
  · exact lower_numbered_injective h

/-- The same for candidates behind any text. -/
theorem lower_candidate_behind {lead : String} (h : lower (lead ++ TakenNames.candidate base m) =
    lower (lead ++ TakenNames.candidate base n)) : m = n := by
  have hlead : ∀ k, lead ++ TakenNames.candidate base k = TakenNames.candidate (lead ++ base) k ++ "" := by
    intro k
    unfold TakenNames.candidate
    split
    · rw [String.append_empty]
    · show lead ++ (base ++ "_" ++ toString k) = lead ++ base ++ "_" ++ toString k ++ ""
      apply String.toList_injective
      simp
  rw [hlead, hlead] at h
  exact lower_candidate_injective h

end LowerCase

/-! ### Search for a free name -/

namespace TakenNames
variable {taken : TakenNames} {base name : String} {endings : List String} {attempts n : Nat}

/-- No name is taken that the name has with one of its endings. -/
def IsFree (taken : TakenNames) (name : String) (endings : List String) : Prop :=
  ∀ key ∈ keys name endings, key ∉ taken

theorem isFree_iff : ((keys name endings).all fun key => !taken.contains key) = true ↔
    IsFree taken name endings := by
  simp [IsFree]

/-- One of the first candidates is free: more candidates than taken names for every ending would give
    one taken name to two of them. -/
theorem exists_isFree (taken : TakenNames) (base : String) (endings : List String) :
    ∃ n < taken.size * endings.length + 1, IsFree taken (candidate base n) endings := by
  by_contra hnone
  have hrefused : ∀ n < taken.size * endings.length + 1, ∃ ending ∈ endings,
      lower (candidate base n ++ ending) ∈ taken := by
    intro n hn
    by_contra hfree
    refine hnone ⟨n, hn, fun key hkey htaken => hfree ?_⟩
    obtain ⟨ending, hending, rfl⟩ := List.mem_map.mp hkey
    exact ⟨ending, hending, htaken⟩
  choose! ending hending using hrefused
  have hcard : (taken.toList.toFinset ×ˢ endings.toFinset).card <
      (Finset.range (taken.size * endings.length + 1)).card := by
    rw [Finset.card_product, Finset.card_range]
    have htaken := (List.toFinset_card_le taken.toList).trans Std.HashSet.length_toList.le
    exact Nat.lt_succ_of_le (Nat.mul_le_mul htaken (List.toFinset_card_le endings))
  obtain ⟨m, -, n, -, hne, heq⟩ := Finset.exists_ne_map_eq_of_card_lt_of_maps_to hcard
    (f := fun n => (lower (candidate base n ++ ending n), ending n)) fun n hn => by
      have := hending n (by simpa using hn)
      simpa using ⟨this.2, this.1⟩
  simp only [Prod.mk.injEq] at heq
  rw [heq.2] at heq
  exact hne (lower_candidate_injective heq.1)

/-- The search gives the first free candidate, if there is one among those that it tries. -/
theorem firstFree_eq (hn : IsFree taken (candidate base n) endings) {start : Nat} (hs : start ≤ n)
    (hlt : n < start + attempts) (hfirst : ∀ m, start ≤ m → m < n → ¬IsFree taken (candidate base m) endings) :
    firstFree taken base endings attempts start = candidate base n := by
  induction attempts generalizing start with
  | zero => omega
  | succ attempts ih =>
    rw [firstFree]
    by_cases heq : start = n
    · subst heq
      rw [if_pos (isFree_iff.mpr hn)]
    · have hrefused := hfirst start le_rfl (by omega)
      rw [if_neg fun h => hrefused (isFree_iff.mp h)]
      exact ih (by omega) (by omega) fun m hm => hfirst m (by omega)

/-- An assigned name is the first candidate that is free with every ending, and exactly its keys become
    taken. -/
theorem assign_spec (taken : TakenNames) (base : String) (endings : List String) :
    ∃ n, (assign taken base endings).1 = candidate base n ∧
      IsFree taken (candidate base n) endings ∧
      (∀ m < n, ¬IsFree taken (candidate base m) endings) ∧
      ∀ key, key ∈ (assign taken base endings).2 ↔
        key ∈ taken ∨ key ∈ keys (candidate base n) endings := by
  classical
  obtain ⟨bound, hbound, hfree⟩ := exists_isFree taken base endings
  have hex : ∃ n, IsFree taken (candidate base n) endings := ⟨bound, hfree⟩
  have hsearch : firstFree taken base endings (taken.size * endings.length + 1) 0 =
      candidate base (Nat.find hex) :=
    firstFree_eq (Nat.find_spec hex) (Nat.zero_le _)
      (by have := Nat.find_min' hex hfree; omega) fun m _ hm => Nat.find_min hex hm
  refine ⟨Nat.find hex, hsearch, Nat.find_spec hex, fun m hm => Nat.find_min hex hm, fun key => ?_⟩
  rw [assign, hsearch]
  simp [Std.HashSet.mem_insertMany_list]

/-- Where nothing is taken, a name is given as it is. -/
theorem assign_empty (base : String) (endings : List String) : (assign ∅ base endings).1 = base := by
  have hfree : IsFree ∅ (candidate base 0) endings := fun key _ => Std.HashSet.not_mem_empty
  have hsearch : firstFree ∅ base endings 1 0 = candidate base 0 :=
    firstFree_eq hfree le_rfl (by omega) fun m hm hlt => by omega
  simpa [assign, candidate] using hsearch

end TakenNames

end CrudSql

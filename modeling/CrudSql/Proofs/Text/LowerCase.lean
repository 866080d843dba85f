import CrudSql.Text.Blank
import CrudSql.Text.LowerCase

/-! Lower case across the ends of words. Only a sigma looks at what stands around it, and never beyond a
    character that is neither cased nor looked through; there a text can be cut and each part written in
    lower case alone. -/

namespace CrudSql.Text
variable {c d : Char} {before a rest cs : List Char}

/-- A character at which a word ends for casing. -/
structure IsWordEnd (c : Char) : Prop where
  uncased : isCased c = false
  plain : isCaseIgnorable c = false
  ne_sigma : c ≠ capitalSigma

theorem IsWordEnd.nextIsCased_append (h : IsWordEnd c) (cs rest : List Char) :
    nextIsCased (cs ++ c :: rest) = nextIsCased cs := by
  induction cs with
  | nil => simp [nextIsCased, h.plain, h.uncased]
  | cons d cs ih =>
    cases hd : isCaseIgnorable d
    · simp [nextIsCased, hd]
    · simpa [nextIsCased, hd] using ih

/-- What follows the end of a word does not change the lower case before it. -/
theorem IsWordEnd.lowerAfter_append (h : IsWordEnd c) : lowerAfter before (a ++ c :: rest) =
    lowerAfter before a ++ lowerAfter (a.reverse ++ before) (c :: rest) := by
  induction a generalizing before with
  | nil => rfl
  | cons d a ih =>
    rw [List.cons_append, lowerAfter, lowerAfter, h.nextIsCased_append, ih]
    simp

/-- What precedes the end of a word does not change the lower case after it. -/
theorem IsWordEnd.lowerAfter_context (h : IsWordEnd c) (cs : List Char) :
    lowerAfter (a ++ c :: before) cs = lowerAfter a cs := by
  induction cs generalizing a with
  | nil => rfl
  | cons d cs ih =>
    have ih := ih (a := d :: a)
    simp only [List.cons_append] at ih
    simp only [lowerAfter, h.nextIsCased_append, ih]

/-- A text is written in lower case part by part where words end. -/
theorem IsWordEnd.lowerChars_append (h : IsWordEnd c) (a rest : List Char) :
    lowerChars (a ++ c :: rest) = lowerChars a ++ (lowerChar c ++ lowerChars rest) := by
  have hrest : lowerAfter (c :: a.reverse) rest = lowerChars rest := h.lowerAfter_context (a := []) rest
  rw [lowerChars, h.lowerAfter_append, lowerAfter, if_neg h.ne_sigma, List.append_nil, hrest]
  rfl

/-- Word ends that are their own lower case are kept before any text. -/
theorem lowerChars_append_of_wordEnds (h : ∀ c ∈ a, IsWordEnd c ∧ lowerChar c = [c]) :
    lowerChars (a ++ rest) = a ++ lowerChars rest := by
  induction a with
  | nil => rfl
  | cons c a ih =>
    simp only [List.forall_mem_cons] at h
    have hcut : lowerChars (c :: (a ++ rest)) = lowerChar c ++ lowerChars (a ++ rest) :=
      h.1.1.lowerChars_append [] (a ++ rest)
    rw [List.cons_append, hcut, h.1.2, ih h.2]
    rfl

/-- The first character of a text has the lower case that it has alone. -/
theorem lowerChars_cons (c : Char) (cs : List Char) : lowerChars (c :: cs) = lowerChars [c] ++ lowerAfter [c] cs := by
  simp [lowerChars, lowerAfter, nextIsCased]

/-- A first character that is not cased does not change the lower case after it. -/
theorem lowerAfter_of_uncased (h : isCased c = false) (cs : List Char) :
    lowerAfter (a ++ [c]) cs = lowerAfter a cs := by
  have hnext : ∀ before, nextIsCased (before ++ [c]) = nextIsCased before := by
    intro before
    induction before with
    | nil =>
      cases hc : isCaseIgnorable c <;> simp [nextIsCased, hc, h]
    | cons d before ih =>
      cases hd : isCaseIgnorable d
      · simp [nextIsCased, hd]
      · simpa [nextIsCased, hd] using ih
  induction cs generalizing a with
  | nil => rfl
  | cons d cs ih =>
    have ih := ih (a := d :: a)
    simp only [List.cons_append] at ih
    simp only [lowerAfter, hnext, ih]

/-! ### Characters without case -/

/-- Whether a character has a lower case other than itself, or is in the lower case of another one. -/
def hasCase (c : Char) : Bool :=
  c.isUpper || c.isLower || [0, 0x130, 0x307, 0x3c2].contains c.toNat ||
    lowerRuns.any fun (first, last, _, target) =>
      (first ≤ c.toNat && c.toNat ≤ last) || (target ≤ c.toNat && c.toNat ≤ target + (last - first))

theorem toLower_cases (c : Char) : c.toLower = c ∨ c.isUpper = true ∧ c.toLower.isLower = true := by
  have hupper (c : Char) : c.isUpper = decide (c.val ≥ 'A'.val ∧ c.val ≤ 'Z'.val) := rfl
  have hlower (c : Char) : c.isLower = (decide (c.val ≥ 'a'.val) && decide (c.val ≤ 'z'.val)) := rfl
  unfold Char.toLower
  split
  case isTrue hrange =>
    refine Or.inr ⟨by rw [hupper]; exact decide_eq_true hrange, ?_⟩
    rw [hlower]
    simp only [ge_iff_le, UInt32.le_iff_toNat_le, Bool.and_eq_true, decide_eq_true_eq, UInt32.toNat_add] at hrange ⊢
    grind
  case isFalse => exact Or.inl rfl

theorem toNat_ofNat_cases (n : Nat) : (Char.ofNat n).toNat = n ∨ (Char.ofNat n).toNat = 0 := by
  by_cases h : n.isValidChar
  · exact Or.inl (by rw [Char.ofNat, dif_pos h]; rfl)
  · exact Or.inr (by rw [Char.ofNat, dif_neg h]; rfl)

theorem lowerChar_of_caseless (h : hasCase c = false) : lowerChar c = [c] := by
  simp only [hasCase, Bool.or_eq_false_iff, List.any_eq_false] at h
  obtain ⟨⟨⟨hupper, -⟩, hother⟩, hruns⟩ := h
  unfold lowerChar
  split
  · obtain heq | ⟨hc, -⟩ := toLower_cases c
    · rw [heq]
    · rw [hupper] at hc
      cases hc
  · split
    · simp_all
    · split
      · rename_i first last step target hfind
        have hin := List.find?_some hfind
        have hrun := hruns _ (List.mem_of_find?_eq_some hfind)
        simp only [Bool.and_eq_true, decide_eq_true_eq] at hin
        simp [hin.1] at hrun
      · rfl

theorem eq_of_mem_lowerChar (h : hasCase c = false) (hc : c ∈ lowerChar d) : d = c := by
  simp only [hasCase, Bool.or_eq_false_iff, List.any_eq_false] at h
  obtain ⟨⟨⟨-, hlower⟩, hother⟩, hruns⟩ := h
  unfold lowerChar at hc
  split at hc
  · cases List.mem_singleton.mp hc
    obtain heq | ⟨-, hc⟩ := toLower_cases d
    · exact heq.symm
    · rw [hlower] at hc
      cases hc
  · split at hc
    · simp only [List.mem_cons, List.not_mem_nil, or_false] at hc
      obtain rfl | rfl := hc
      · cases hlower
      · cases hother
    · split at hc
      · rename_i first last step target hfind
        have hin := List.find?_some hfind
        have hrun := hruns _ (List.mem_of_find?_eq_some hfind)
        simp only [Bool.and_eq_true, decide_eq_true_eq] at hin
        cases List.mem_singleton.mp hc
        obtain hnat | hnat := toNat_ofNat_cases (target + (d.toNat - first))
        · simp only [hnat, Bool.or_eq_true, Bool.and_eq_true, decide_eq_true_eq] at hrun
          omega
        · simp [hnat] at hother
      · exact (List.mem_singleton.mp hc).symm

theorem hasCase_of_isBlank (h : isBlank c = true) : hasCase c = false := by
  have hall : ∀ n ∈ blankRanges.flatMap fun range => List.range' range.1 (range.2 + 1 - range.1),
      hasCase (Char.ofNat n) = false := by
    decide
  obtain ⟨range, hrange, hfirst, hlast⟩ := CodeRanges.has_iff.mp h
  rw [← Char.ofNat_toNat c]
  refine hall _ (List.mem_flatMap.mpr ⟨range, hrange, List.mem_range'_1.mpr ⟨hfirst, ?_⟩⟩)
  omega

theorem mem_lowerEach_of_caseless (h : hasCase c = false) : c ∈ lowerEach cs ↔ c ∈ cs := by
  rw [lowerEach, List.mem_flatMap]
  constructor
  · rintro ⟨d, hd, hc⟩
    rwa [← eq_of_mem_lowerChar h hc]
  · exact fun hc => ⟨c, hc, by rw [lowerChar_of_caseless h]; exact List.mem_singleton_self c⟩

theorem lowerChar_ne_nil (c : Char) : lowerChar c ≠ [] := by
  unfold lowerChar
  split
  · exact List.cons_ne_nil _ _
  · split
    · exact List.cons_ne_nil _ _
    · split <;> exact List.cons_ne_nil _ _

theorem dropWhile_flatMap {p : Char → Bool} {f : Char → List Char} (hkept : ∀ c, p c = true → f c = [c])
    (hother : ∀ c, p c = false → f c ≠ [] ∧ ∀ d ∈ f c, p d = false) (cs : List Char) :
    (cs.flatMap f).dropWhile p = (cs.dropWhile p).flatMap f := by
  induction cs with
  | nil => rfl
  | cons c cs ih =>
    rw [List.flatMap_cons]
    cases hc : p c with
    | true =>
      rw [hkept c hc, List.singleton_append, List.dropWhile_cons_of_pos hc, List.dropWhile_cons_of_pos hc, ih]
    | false =>
      obtain ⟨hne, hnone⟩ := hother c hc
      obtain ⟨d, ds, hds⟩ := List.exists_cons_of_ne_nil hne
      have hd : p d = false := hnone d (hds ▸ List.mem_cons_self)
      rw [List.dropWhile_cons_of_neg (by simp [hc]), List.flatMap_cons, hds, List.cons_append,
        List.dropWhile_cons_of_neg (by simp [hd])]

/-- Characters without case at the ends of a text can be dropped before or after it is written in lower
    case. -/
theorem lowerEach_trimChars (cs : List Char) : lowerEach (trimChars cs) = trimChars (lowerEach cs) := by
  have hkept : ∀ c, isBlank c = true → lowerChar c = [c] := fun c hc => lowerChar_of_caseless (hasCase_of_isBlank hc)
  have hother : ∀ c, isBlank c = false → ∀ d ∈ lowerChar c, isBlank d = false := by
    refine fun c hc d hd => Bool.eq_false_iff.mpr fun hblank => ?_
    rw [eq_of_mem_lowerChar (hasCase_of_isBlank hblank) hd, hblank] at hc
    cases hc
  have hfront : ∀ cs, (lowerEach cs).dropWhile isBlank = lowerEach (cs.dropWhile isBlank) :=
    dropWhile_flatMap hkept fun c hc => ⟨lowerChar_ne_nil c, hother c hc⟩
  have hback : ∀ cs : List Char, (cs.flatMap (List.reverse ∘ lowerChar)).dropWhile isBlank =
      (cs.dropWhile isBlank).flatMap (List.reverse ∘ lowerChar) := by
    refine dropWhile_flatMap (fun c hc => ?_) fun c hc => ⟨?_, fun d hd => ?_⟩
    · rw [Function.comp_apply, hkept c hc]
      rfl
    · simpa using lowerChar_ne_nil c
    · exact hother c hc d (List.mem_reverse.mp hd)
  have hreverse : ∀ cs : List Char, (lowerEach cs).reverse = cs.reverse.flatMap (List.reverse ∘ lowerChar) := fun cs =>
    List.reverse_flatMap ..
  have hrestore : ∀ cs : List Char, (cs.flatMap (List.reverse ∘ lowerChar)).reverse = lowerEach cs.reverse := by
    intro cs
    rw [List.reverse_flatMap]
    simp [lowerEach, Function.comp_def]
  rw [trimChars, trimChars, hfront, hreverse, hback, hrestore]

/-- Without a capital sigma every character has its lower case whatever stands around it. -/
theorem lowerAfter_eq_lowerEach (h : capitalSigma ∉ cs) (before : List Char) :
    lowerAfter before cs = lowerEach cs := by
  induction cs generalizing before with
  | nil => rfl
  | cons c cs ih =>
    rw [List.mem_cons, not_or] at h
    rw [lowerAfter, if_neg (Ne.symm h.1), ih h.2, lowerEach, lowerEach, List.flatMap_cons]

/-! ### Lengths -/

theorem length_lowerChar (h : c.toNat ≠ 0x130) : (lowerChar c).length = 1 := by
  unfold lowerChar
  rw [if_neg h]
  split
  · rfl
  · split <;> rfl

theorem length_lowerChar_sigma : (lowerChar capitalSigma).length = 1 := length_lowerChar (by decide)

/-- The length of the lower case does not depend on what stands around a character. -/
theorem length_lowerAfter (before cs : List Char) :
    (lowerAfter before cs).length = (lowerEach cs).length := by
  induction cs generalizing before with
  | nil => rfl
  | cons c cs ih =>
    rw [lowerAfter, lowerEach, List.flatMap_cons, List.length_append, List.length_append, ih]
    congr 1
    split
    · rename_i h
      rw [h, length_lowerChar_sigma]
      rfl
    · rfl

/-- What is left of a text has a shorter lower case, unless it is the whole text. -/
theorem length_lowerEach_lt (h : a.Sublist cs) (hne : a ≠ cs) : (lowerEach a).length < (lowerEach cs).length := by
  have hcons : ∀ c cs, (lowerEach (c :: cs)).length = (lowerChar c).length + (lowerEach cs).length := fun c cs => by
    rw [lowerEach, List.flatMap_cons, List.length_append, lowerEach]
  induction h with
  | slnil => exact absurd rfl hne
  | @cons a cs c _ ih =>
    have hpos := List.length_pos_iff.mpr (lowerChar_ne_nil c)
    by_cases heq : a = cs
    · rw [heq, hcons]
      omega
    · have hlt := ih heq
      rw [hcons]
      omega
  | @cons_cons a cs c _ ih =>
    have hlt := ih fun heq => hne (congrArg (c :: ·) heq)
    rw [hcons, hcons]
    omega

theorem length_lowerChars_append (a b : List Char) :
    (lowerChars (a ++ b)).length = (lowerChars a).length + (lowerChars b).length := by
  simp [lowerChars, length_lowerAfter, lowerEach]

theorem toList_lower (s : String) : (lower s).toList = lowerChars s.toList := by
  simp [lower]

end CrudSql.Text

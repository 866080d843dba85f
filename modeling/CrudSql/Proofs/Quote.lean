import CrudSql.Quote

/-! Quoted names in a text. The reader of quoted names gives back every name that was quoted, so a text tells
    the quoted name at its front, whatever characters the name has. -/

namespace CrudSql
variable {opening close : Char} {name other rest more : List Char}

/-- A quote that is opened is closed by the other one of its pair. -/
theorem mem_quotePairs {c : Char} (h : closingQuote? c = some close) : (c, close) ∈ quotePairs := by
  obtain ⟨pair, hpair, rfl⟩ := Option.map_eq_some_iff.mp h
  have hc := List.find?_some hpair
  rw [← beq_iff_eq.mp hc]
  exact List.mem_of_find?_eq_some hpair

theorem doubled_cons (c : Char) : doubled close (c :: name) =
    (if c = close then [c, c] else [c]) ++ doubled close name := List.flatMap_cons

theorem mem_doubled {c : Char} : c ∈ doubled close name ↔ c ∈ name := by
  simp only [doubled, List.mem_flatMap]
  constructor
  · rintro ⟨d, hd, hc⟩
    split at hc <;> simp_all
  · intro hc
    refine ⟨c, hc, ?_⟩
    split <;> simp

theorem head?_doubled : (doubled close name).head? = name.head? := by
  cases name with
  | nil => rfl
  | cons c name =>
    rw [doubled_cons]
    split <;> rfl

theorem getLast?_doubled : (doubled close name).getLast? = name.getLast? := by
  rcases List.eq_nil_or_concat name with rfl | ⟨init, last, rfl⟩
  · rfl
  · rw [List.concat_eq_append, doubled, List.flatMap_append, List.flatMap_singleton, List.getLast?_append,
      List.getLast?_concat]
    split <;> rfl

theorem sublist_doubled (close : Char) (name : List Char) : name.Sublist (doubled close name) := by
  induction name with
  | nil => exact .slnil
  | cons c name ih =>
    rw [doubled_cons]
    split
    · exact (ih.cons_cons c).cons c
    · exact ih.cons_cons c

theorem doubled_eq_self_iff : doubled close name = name ↔ close ∉ name := by
  induction name with
  | nil => exact iff_of_true rfl List.not_mem_nil
  | cons c name ih =>
    rw [doubled_cons, List.mem_cons, not_or]
    by_cases hc : c = close
    · -- The closing quote stands twice, and nothing else is lost.
      have hlength := (sublist_doubled close name).length_le
      refine iff_of_false (fun heq => ?_) fun h => h.1 hc.symm
      rw [if_pos hc] at heq
      have heq := congrArg List.length heq
      simp only [List.length_append, List.length_cons, List.length_nil] at heq
      omega
    · rw [if_neg hc, List.singleton_append, List.cons.injEq, ih]
      exact and_congr ⟨fun _ heq => hc heq.symm, fun _ => rfl⟩ Iff.rfl

/-- Nothing is added to the text on the way. -/
theorem subset_of_quotedName? (h : quotedName? close more = some (name, rest)) : name ⊆ more ∧ rest ⊆ more := by
  fun_induction quotedName? close more generalizing name rest with
  | case1 | case3 => cases h
  | case2 | case5 =>
    cases h
    simp
  | case4 tail ih | case6 c d tail hc ih =>
    obtain ⟨⟨inner, behind⟩, hinner, heq⟩ := Option.map_eq_some_iff.mp h
    cases heq
    obtain ⟨hname, hrest⟩ := ih hinner
    simp_all [List.subset_def]

/-- Behind the name goes its closing quote, which must not be one of two. -/
theorem quotedName?_doubled (hrest : rest.head? ≠ some close) :
    quotedName? close (doubled close name ++ close :: rest) = some (name, rest) := by
  induction name with
  | nil =>
    cases rest with
    | nil => simp [doubled, quotedName?]
    | cons d rest =>
      have hd : d ≠ close := fun hd => hrest (congrArg some hd)
      simp [doubled, quotedName?, hd]
  | cons c name ih =>
    rw [doubled_cons]
    by_cases hc : c = close
    · subst hc
      simp [quotedName?, ih]
    · obtain ⟨d, tail, htail⟩ := List.exists_cons_of_ne_nil (List.append_ne_nil_of_right_ne_nil
        (doubled close name) (List.cons_ne_nil close rest))
      rw [if_neg hc, List.append_assoc, List.singleton_append, htail, quotedName?, if_neg hc, ← htail, ih]
      rfl

/-- The text up to the rest is the quoted form of the name, less its opening quote. -/
theorem eq_of_quotedName? (h : quotedName? close more = some (name, rest)) :
    more = doubled close name ++ close :: rest := by
  fun_induction quotedName? close more generalizing name rest with
  | case1 | case3 => cases h
  | case2 | case5 =>
    cases h
    rfl
  | case4 tail ih =>
    obtain ⟨⟨inner, behind⟩, hinner, heq⟩ := Option.map_eq_some_iff.mp h
    cases heq
    rw [doubled_cons, if_pos rfl, List.append_assoc, ← ih hinner]
    rfl
  | case6 c d tail hc ih =>
    obtain ⟨⟨inner, behind⟩, hinner, heq⟩ := Option.map_eq_some_iff.mp h
    cases heq
    rw [doubled_cons, if_neg hc, List.append_assoc, ← ih hinner]
    rfl

/-- A text that starts with a quoted name does so in one way. -/
theorem quoteChars_append_inj (hrest : rest.head? ≠ some close) (hmore : more.head? ≠ some close)
    (h : quoteChars opening close name ++ rest = quoteChars opening close other ++ more) :
    name = other ∧ rest = more := by
  have hinner : doubled close name ++ close :: rest = doubled close other ++ close :: more := by
    simpa [quoteChars] using h
  have hread : quotedName? close (doubled close name ++ close :: rest) = some (name, rest) :=
    quotedName?_doubled hrest
  rw [hinner, quotedName?_doubled hmore] at hread
  cases hread
  exact ⟨rfl, rfl⟩

end CrudSql

/-! Items with a separator between, and the pieces of a text that is cut at a character. -/

namespace CrudSql
variable {α : Type} {a : α} {separator : List α} {items : List (List α)}

theorem mem_intercalate (h : a ∈ separator.intercalate items) : a ∈ separator ∨ ∃ item ∈ items, a ∈ item := by
  induction items with
  | nil => cases h
  | cons item items ih =>
    cases items with
    | nil => exact Or.inr ⟨item, List.mem_cons_self, by simpa using h⟩
    | cons next items =>
      rw [List.intercalate_cons_cons, List.mem_append, List.mem_append] at h
      rcases h with (h | h) | h
      · exact Or.inr ⟨item, List.mem_cons_self, h⟩
      · exact Or.inl h
      · obtain hseparator | ⟨found, hfound, hmem⟩ := ih h
        · exact Or.inl hseparator
        · exact Or.inr ⟨found, List.mem_cons_of_mem _ hfound, hmem⟩

theorem head?_intercalate (hne : items ≠ []) (h : ∀ item ∈ items, item.head? = some a) :
    (separator.intercalate items).head? = some a := by
  cases items with
  | nil => exact absurd rfl hne
  | cons item items =>
    have hitem := h item List.mem_cons_self
    cases items with
    | nil => simpa using hitem
    | cons next items => simp [List.intercalate_cons_cons, hitem]

theorem getLast?_intercalate (hne : items ≠ []) (h : ∀ item ∈ items, item.getLast? = some a) :
    (separator.intercalate items).getLast? = some a := by
  induction items with
  | nil => exact absurd rfl hne
  | cons item items ih =>
    cases items with
    | nil => simpa using h item List.mem_cons_self
    | cons next items =>
      have hrest := ih (List.cons_ne_nil _ _) fun item hitem => h item (List.mem_cons_of_mem _ hitem)
      simp [List.intercalate_cons_cons, hrest]

/-- A piece does not have the character at which the text is cut. -/
theorem notMem_of_mem_splitOn {c : Char} {text piece : List Char} (h : piece ∈ text.splitOn c) : c ∉ piece := by
  induction text generalizing piece with
  | nil =>
    cases List.mem_singleton.mp h
    exact List.not_mem_nil
  | cons d text ih =>
    rw [List.splitOn, List.splitOnP_cons_eq_if_modifyHead] at h
    split at h
    · obtain rfl | h := List.mem_cons.mp h
      · exact List.not_mem_nil
      · exact ih h
    · rename_i hd
      have hd : c ≠ d := fun heq => hd (beq_iff_eq.mpr heq.symm)
      obtain ⟨first, rest, hsplit⟩ := List.exists_cons_of_ne_nil (List.splitOn_ne_nil c text)
      rw [← List.splitOn, hsplit, List.modifyHead_cons] at h
      rw [hsplit] at ih
      obtain rfl | h := List.mem_cons.mp h
      · exact List.not_mem_cons_of_ne_of_not_mem hd (ih List.mem_cons_self)
      · exact ih (List.mem_cons_of_mem _ h)

end CrudSql

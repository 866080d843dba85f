import CrudSql.Proofs.Predicate.Draft

/-! An item at the end of a predicate. A pass has come to the end of the other items before it reads the
    new one, so that nothing of what it has named, written and bound changes; the new item stands before
    the closing parenthesis. -/

namespace CrudSql

namespace Draft
variable {setting : Setting} {semantics : NullSemantics} {lead : String} {draft next : Draft}
  {connective : Connective} {isFirst : Bool} {forest : Forest Condition} {atoms : List Atom}

/-! ### What a draft has -/

@[simp] theorem taken_write : (draft.write atoms).taken = draft.taken := rfl

@[simp] theorem text_write : (draft.write atoms).text setting =
    draft.text setting ++ String.ofList (atoms.flatMap (·.chars setting)) := by
  simp [text, write, String.ofList_append]

@[simp] theorem text_followedBy : (draft.followedBy next).text setting = draft.text setting ++ next.text setting := by
  simp [text, followedBy, String.ofList_append]

/-! ### What a pass does -/

/-- A pass reads of a draft only the names that it has taken. -/
theorem items_frame : draft.items setting semantics lead connective isFirst forest =
    draft.followedBy (({ taken := draft.taken } : Draft).items setting semantics lead connective isFirst forest) := by
  rw [items_eq, items_eq]
  rfl

/-- What a pass binds does not depend on what it writes between the items. -/
theorem bindings_items {other : Connective} {isFirst' : Bool} :
    (draft.items setting semantics lead connective isFirst forest).bindings =
      draft.bindings ++
        (({ taken := draft.taken } : Draft).items setting semantics lead other isFirst' forest).bindings := by
  rw [items_eq, items_eq]
  rfl

/-- Items without conditions leave nothing. -/
theorem items_of_isBare (h : forest.isBare = true) :
    draft.items setting semantics lead connective isFirst forest = draft := by
  induction forest with
  | nil => rfl
  | leaf => cases h
  | group negated inward inner rest _ ih =>
    obtain ⟨hinner, hrest⟩ := Bool.and_eq_true_iff.mp h
    rw [items, if_pos hinner, ih hrest]

/-- A pass over two rows of items goes over the one and then over the other. -/
theorem items_append (a b : Forest Condition) :
    draft.items setting semantics lead connective isFirst (a ++ b) =
      (draft.items setting semantics lead connective isFirst a).items setting semantics lead connective
        (isFirst && a.isBare) b := by
  show draft.items setting semantics lead connective isFirst (a.append b) = _
  induction a generalizing draft isFirst with
  | nil => simp [Forest.append, items, Forest.isBare]
  | leaf condition rest ih => simp [Forest.append, items, Forest.isBare, ih]
  | group negated inward inner rest _ ih =>
    by_cases hbare : inner.isBare = true
    · simp [Forest.append, items, Forest.isBare, hbare, ih]
    · simp [Forest.append, items, Forest.isBare, hbare, ih]

/-- An item behind others is written as it is alone, behind a connective. -/
theorem items_item (item : PredicateItem) (h : item.forest.isBare = false) :
    draft.items setting semantics lead connective false item.forest =
      (draft.write [.fixed connective.sql]).items setting semantics lead .and true item.forest := by
  cases item with
  | condition value => simp [PredicateItem.forest, items, write]
  | group predicate =>
    have hitems : predicate.items.isBare = false := by
      simpa [PredicateItem.forest, Forest.isBare] using h
    simp [PredicateItem.forest, items, hitems, write]

end Draft

namespace Predicate
variable {setting : Setting} {semantics : NullSemantics} {lead : String} {predicate : Predicate}
  {item : PredicateItem}

/-- The predicate as a pass leaves it that has yet to close its parenthesis. -/
def openDraft (setting : Setting) (semantics : NullSemantics) (lead : String) (predicate : Predicate) : Draft :=
  (({} : Draft).write ((if predicate.negated then [.fixed "NOT "] else []) ++ [.fixed "("])).items
    setting semantics lead predicate.connective true predicate.items

theorem draft_eq_openDraft (h : predicate.isEmpty = false) : predicate.draft setting semantics lead =
    (predicate.openDraft setting semantics lead).write [.fixed ")"] := by
  have hitems : predicate.items.isBare = false := h
  simp [draft, root, Draft.items, hitems, openDraft, Draft.write]

theorem text?_eq_openDraft (h : predicate.isEmpty = false) : predicate.text? setting semantics lead =
    some ((predicate.openDraft setting semantics lead).text setting ++ ")") := by
  rw [text?_eq_draft, h, draft_eq_openDraft h, Draft.text_write]
  rfl

theorem taken_openDraft :
    (predicate.openDraft setting semantics lead).taken = (predicate.draft setting semantics lead).taken := by
  rw [openDraft, Draft.items_eq, draft_eq]
  rfl

theorem bindings_openDraft (semantics : NullSemantics) : (predicate.openDraft setting semantics lead).bindings =
    predicate.bindings setting.arrayThreshold lead := by
  rw [openDraft, Draft.items_eq]
  rfl

theorem openDraft_push : (predicate.push item).openDraft setting semantics lead =
    (predicate.openDraft setting semantics lead).items setting semantics lead predicate.connective
      predicate.isEmpty item.forest := by
  rw [openDraft, push, Draft.items_append, Bool.true_and]
  rfl

theorem isEmpty_push : (predicate.push item).isEmpty = (predicate.isEmpty && item.forest.isBare) := by
  rw [Bool.eq_iff_iff, Bool.and_eq_true, isEmpty_iff, isEmpty_iff, Forest.isBare_iff, conditions, push,
    Forest.leaves_append, List.append_eq_nil_iff]
  rfl

/-- The text of a predicate with a condition, to which an item is added. -/
theorem text?_push (h : predicate.isEmpty = false) : (predicate.push item).text? setting semantics lead =
    some (((predicate.openDraft setting semantics lead).items setting semantics lead predicate.connective false
      item.forest).text setting ++ ")") := by
  have hpush : (predicate.push item).isEmpty = false := by
    rw [isEmpty_push, h, Bool.false_and]
  rw [text?_eq_openDraft hpush, openDraft_push, h]

/-- An item that is added to a predicate is bound and written behind everything else. A pass goes on
    with the names that the predicate has taken, and what it adds are the bindings of the item, which
    come last, and the text of the item, which stands behind a connective and before the parenthesis
    that closes the predicate. An item without conditions leaves the text as it is. -/
theorem writes_push (setting : Setting) (semantics : NullSemantics) (lead : String) (predicate : Predicate)
    (item : PredicateItem) :
    let added := ({ taken := (predicate.draft setting semantics lead).taken } : Draft).items setting semantics lead
      .and true item.forest
    (predicate.push item).bindings setting.arrayThreshold lead =
        predicate.bindings setting.arrayThreshold lead ++ added.bindings ∧
      (predicate.conditions ≠ [] → item.forest.leaves = [] →
        (predicate.push item).text? setting semantics lead = predicate.text? setting semantics lead) ∧
      (predicate.conditions ≠ [] → item.forest.leaves ≠ [] →
        ∃ opened, predicate.text? setting semantics lead = some (opened ++ ")") ∧
          (predicate.push item).text? setting semantics lead =
            some (opened ++ predicate.connective.sql ++ added.text setting ++ ")")) := by
  intro added
  have hfilled : predicate.conditions ≠ [] → predicate.isEmpty = false := fun h =>
    Bool.eq_false_iff.mpr fun hempty => h (isEmpty_iff.mp hempty)
  refine ⟨?_, fun hconditions hleaves => ?_, fun hconditions hleaves => ?_⟩
  · rw [← bindings_openDraft semantics, openDraft_push, Draft.bindings_items, bindings_openDraft,
      taken_openDraft]
  · rw [text?_push (hfilled hconditions), Draft.items_of_isBare (Forest.isBare_iff.mpr hleaves),
      text?_eq_openDraft (hfilled hconditions)]
  · have hitem : item.forest.isBare = false := Bool.eq_false_iff.mpr fun hbare => hleaves (Forest.isBare_iff.mp hbare)
    refine ⟨_, text?_eq_openDraft (hfilled hconditions), ?_⟩
    -- The connective takes no name, so the pass goes on as it does for the item alone.
    rw [text?_push (hfilled hconditions), Draft.items_item item hitem, Draft.items_frame, Draft.text_followedBy,
      Draft.text_write, Draft.taken_write, taken_openDraft]
    simp [Atom.chars, added]

end Predicate
end CrudSql

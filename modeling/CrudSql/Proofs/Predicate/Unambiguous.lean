import CrudSql.Proofs.Predicate.Spelling
import CrudSql.Proofs.Predicate.Text

/-! Predicates are told apart by their text and their bindings. Read from the left along with the bindings, a
    text shows at every place whether a condition, a group or the end of a group comes next; so two predicates
    that have the same text and the same bindings say the same. -/

namespace CrudSql

namespace Forest
variable {α : Type} {setting : Setting} {semantics : NullSemantics} {lead : String}

theorem width_settled (forest : Forest α) : forest.settled.width = forest.width := by
  induction forest with
  | nil => rfl
  | leaf value rest ih => simp only [settled, width, ih]
  | group negated connective inner rest _ ih => simp only [settled, width, ih]

theorem width_ne_zero {forest : Forest α} (h : forest.isBare = false) : forest.width ≠ 0 := by
  cases forest with
  | nil => cases h
  | leaf | group => exact Nat.succ_ne_zero _

/-! ### Parts of the text -/

section Parts

/-- What stands before an item of a group. -/
def link (connective : Connective) (isFirst : Bool) : List Char :=
  if isFirst then [] else connective.sql.toList

/-- How a group begins. -/
def opening (negated : Bool) : List Char := (if negated then "NOT (" else "(").toList

variable (setting semantics lead)

/-- The text of the items of a group. -/
def chars (connective : Connective) (isFirst : Bool) (forest : Forest NamedCondition) : List Char :=
  (forest.atoms (·.atoms setting semantics lead) connective isFirst).flatMap (·.chars setting)

variable {setting semantics lead} {connective c d : Connective} {isFirst negated negated' : Bool}
  {x y : List Char}

theorem chars_leaf (named : NamedCondition) (rest : Forest NamedCondition) :
    chars setting semantics lead connective isFirst (leaf named rest) = link connective isFirst ++
      ((named.atoms setting semantics lead).flatMap (·.chars setting) ++
        chars setting semantics lead connective false rest) := by
  cases isFirst <;> simp [chars, atoms, link, Atom.chars]

theorem chars_group {inward : Connective} {inner rest : Forest NamedCondition} (h : inner.isBare = false) :
    chars setting semantics lead connective isFirst (group negated inward inner rest) =
      link connective isFirst ++ (opening negated ++ (chars setting semantics lead inward true inner ++
        ')' :: chars setting semantics lead connective false rest)) := by
  cases isFirst <;> cases negated <;> simp [chars, atoms, link, opening, h, Atom.chars]

theorem link_inj (h : link c isFirst ++ x = link d isFirst ++ y) : (isFirst = true ∨ c = d) ∧ x = y := by
  cases isFirst with
  | true => exact ⟨Or.inl rfl, h⟩
  | false =>
    have hcd : c = d ∧ x = y := by
      cases c <;> cases d <;> simp_all [link, Connective.sql]
    exact ⟨Or.inr hcd.1, hcd.2⟩

/-- The connective of a group with more than one item shows before the second. -/
theorem width_succ_le {width : Nat} (h : isFirst = true ∨ c = d) (hrest : width ≤ false.toNat ∨ c = d) :
    width + 1 ≤ isFirst.toNat ∨ c = d := by
  rcases h with rfl | h
  · exact hrest.imp_left Nat.succ_le_succ
  · exact Or.inr h

theorem opening_inj (h : opening negated ++ x = opening negated' ++ y) : negated = negated' ∧ x = y := by
  cases negated <;> cases negated' <;> simp_all [opening]

theorem head_opening (negated : Bool) (x : List Char) : ∃ c ∈ ['N', '('], (opening negated ++ x).head? = some c := by
  cases negated <;> simp [opening]

end Parts

/-! ### Where a group ends -/

section Groups
variable (hm : setting.marks.IsStandard) {inner rest : Forest NamedCondition} {x y : List Char}
include hm

/-- The first item of a group begins with a quote, a digit, a parenthesis or a word. -/
theorem head_item {connective : Connective} {forest : Forest NamedCondition} (hpruned : forest.IsPruned)
    (hne : forest ≠ nil) (x : List Char) : ∃ c ∈ [setting.openingQuote, '1', '(', 'N'],
      (chars setting semantics lead connective true forest ++ x).head? = some c := by
  cases forest with
  | nil => exact absurd rfl hne
  | leaf named rest =>
    have hspelled : Spelled setting semantics _ (named.bindings setting.arrayThreshold lead) _ :=
      named.spelled hm.2
    obtain ⟨c, hc, hhead⟩ := hspelled.head_mem (chars setting semantics lead connective false rest ++ x)
    simp only [List.mem_cons, List.not_mem_nil, or_false] at hc
    refine ⟨c, by rcases hc with hc | hc | hc <;> simp [hc], ?_⟩
    rw [chars_leaf, List.append_assoc, List.append_assoc]
    exact hhead
  | group negated inward inner rest =>
    obtain ⟨c, hc, hhead⟩ := head_opening negated (chars setting semantics lead inward true inner ++
      (')' :: chars setting semantics lead connective false rest ++ x))
    simp only [List.mem_cons, List.not_mem_nil, or_false] at hc
    refine ⟨c, by rcases hc with hc | hc <;> simp [hc], ?_⟩
    rw [chars_group hpruned.1, List.append_assoc, List.append_assoc, List.append_assoc]
    exact hhead

theorem close_ne_chars {connective : Connective} {isFirst : Bool} {forest : Forest NamedCondition}
    (hpruned : forest.IsPruned) (hne : forest ≠ nil) :
    ')' :: x ≠ chars setting semantics lead connective isFirst forest ++ y := by
  intro h
  have hhead := congrArg List.head? h
  cases isFirst with
  | false =>
    -- Between the items stands a space.
    cases forest with
    | nil => exact hne rfl
    | leaf named rest => cases connective <;> simp [chars_leaf, link, Connective.sql] at hhead
    | group negated inward inner rest =>
      cases connective <;> simp [chars_group hpruned.1, link, Connective.sql] at hhead
  | true =>
    obtain ⟨c, hc, hitem⟩ := head_item hm hpruned hne y
    rw [hitem] at hhead
    cases hhead
    have hopening := openingQuote_notMem hm
    simp [eq_comm] at hc hopening
    exact hopening.2.1 hc

theorem unequal_ne_items {column : String} {connective : Connective} {forest : Forest NamedCondition}
    (hsemantics : semantics = .nullNotEqual) (hpruned : forest.IsPruned) (hne : forest ≠ nil) :
    quoteChars setting.openingQuote setting.closingQuote column.toList ++
        ((Form.compare .notEqual).sign.toList ++ x) ≠
      chars setting semantics lead connective true forest ++ y := by
  intro heq
  have hopening := openingQuote_notMem hm
  cases forest with
  | nil => exact hne rfl
  | leaf named rest =>
    simp only [chars_leaf, link, if_true, List.nil_append, List.append_assoc] at heq
    exact (named.spelled hm.2).ne_unequal hm hsemantics heq
  | group negated inward inner rest =>
    have hhead := congrArg List.head? heq
    simp only [chars_group hpruned.1, link, if_true, List.nil_append, List.append_assoc] at hhead
    obtain ⟨c, hc, hopen⟩ := head_opening negated _
    rw [head_quoted, hopen] at hhead
    cases hhead
    simp only [List.mem_cons, not_or] at hopening
    simp [hopening] at hc

/-- A condition is not taken for a group: in a group, a comparison for inequality would have parentheses of
    its own if it held for NULL too. -/
theorem spelled_ne_group {m : Meaning} {b : List (String × Value)} {text : List Char}
    (h : Spelled setting semantics m b text) (hbare : inner.isBare = false) (hpruned : inner.IsPruned)
    (negated : Bool) (inward : Connective) :
    text ++ x ≠ opening negated ++ (chars setting semantics lead inward true inner ++ y) := by
  intro heq
  have hopening := openingQuote_notMem hm
  simp only [List.mem_cons, not_or] at hopening
  obtain ⟨hparen, -, hword, hone, -⟩ := hopening
  obtain ⟨c, hc, hhead⟩ := head_opening negated (chars setting semantics lead inward true inner ++ y)
  rw [← heq] at hhead
  cases h with
  | constant holds =>
    rw [Spelled.head_constant] at hhead
    cases hhead
    simp at hc
  | plain =>
    cases hhead
    simp [hparen, hword] at hc
  | @orNull column name value hsemantics =>
    cases negated with
    | true => simp [opening] at heq
    | false =>
      have hinner : quoteChars setting.openingQuote setting.closingQuote column.toList ++
          ((Form.compare .notEqual).sign.toList ++ (name.toList ++ (" OR ".toList ++
            (quoteChars setting.openingQuote setting.closingQuote column.toList ++
              (" IS NULL)".toList ++ x))))) = chars setting semantics lead inward true inner ++ y := by
        simpa [opening, Form.sign, Comparison.sql] using heq
      refine unequal_ne_items hm hsemantics hpruned ?_ hinner
      rintro rfl
      cases hbare

/-- Items that have one text and one list of parameters, up to the end of their group, say the same; and so
    do the connectives, where there is one. -/
theorem settled_eq {f g : Forest NamedCondition} (hf : f.IsPruned) (hg : g.IsPruned) {c d : Connective}
    {isFirst : Bool} {u v : List (String × Value)}
    (htext : chars setting semantics lead c isFirst f ++ ')' :: x =
      chars setting semantics lead d isFirst g ++ ')' :: y)
    (hbind : f.leaves.flatMap (·.bindings setting.arrayThreshold lead) ++ u =
      g.leaves.flatMap (·.bindings setting.arrayThreshold lead) ++ v) :
    (f.map (·.condition.meaning)).settled = (g.map (·.condition.meaning)).settled ∧
      (f.width ≤ isFirst.toNat ∨ c = d) ∧ x = y ∧ u = v := by
  induction f generalizing g c d isFirst x y u v with
  | nil =>
    by_cases hnil : g = nil
    · subst hnil
      exact ⟨rfl, Or.inl (Nat.zero_le _), List.tail_eq_of_cons_eq htext, hbind⟩
    · exact absurd htext (close_ne_chars hm hg hnil)
  | leaf named rest ih =>
    cases g with
    | nil => exact absurd htext.symm (close_ne_chars hm hf fun hnil => by cases hnil)
    | leaf named' rest' =>
      simp only [chars_leaf, leaves, List.flatMap_cons, List.append_assoc] at htext hbind
      obtain ⟨hlink, hitem⟩ := link_inj htext
      obtain ⟨hmeaning, hbehind, hbound⟩ := (named.spelled hm.2).inj hm (named'.spelled hm.2) hitem hbind
      obtain ⟨hrest, hconnective, hx, hu⟩ := ih (g := rest') hf hg hbehind hbound
      refine ⟨?_, width_succ_le hlink hconnective, hx, hu⟩
      simp only [map, settled, hmeaning, hrest]
    | group negated inward inner rest' =>
      simp only [chars_leaf, chars_group hg.1, List.append_assoc, List.cons_append] at htext
      exact absurd (link_inj htext).2 (spelled_ne_group hm (named.spelled hm.2) hg.1 hg.2.1 negated inward)
  | group negated inward inner rest ihi ihr =>
    cases g with
    | nil => exact absurd htext.symm (close_ne_chars hm hf fun hnil => by cases hnil)
    | leaf named' rest' =>
      simp only [chars_leaf, chars_group hf.1, List.append_assoc, List.cons_append] at htext
      exact absurd (link_inj htext).2.symm
        (spelled_ne_group hm (named'.spelled hm.2) hf.1 hf.2.1 negated inward)
    | group negated' inward' inner' rest' =>
      simp only [chars_group hf.1, chars_group hg.1, leaves, List.flatMap_append, List.append_assoc,
        List.cons_append] at htext hbind
      obtain ⟨hlink, hitem⟩ := link_inj htext
      obtain ⟨rfl, hinside⟩ := opening_inj hitem
      obtain ⟨hinner, hinward, hbehind, hbound⟩ := ihi hf.2.1 hg.2.1 hinside hbind
      obtain ⟨hrest, hconnective, hx, hu⟩ := ihr hf.2.2 hg.2.2 hbehind hbound
      refine ⟨?_, width_succ_le hlink hconnective, hx, hu⟩
      have hwidth : inner.width = inner'.width := by
        have hwidths := congrArg width hinner
        rwa [width_settled, width_settled, width_map, width_map] at hwidths
      -- A group with more than one item shows its connective.
      have hshown : (if inner.width = 1 then .and else inward) = if inner.width = 1 then .and else inward' := by
        rcases hinward with hone | rfl
        · have hpos := width_ne_zero hf.1
          rw [if_pos (by simp at hone; omega), if_pos (by simp at hone; omega)]
        · rfl
      simp only [map, settled, width_map, hinner, hrest, ← hwidth, hshown]

end Groups

end Forest

/-! ### Predicates -/

namespace Predicate
variable {setting : Setting} {semantics : NullSemantics} {lead : String} {p q : Predicate} {text : String}

theorem canonical_eq_namedRoot (t : Option Nat) (predicate : Predicate) :
    predicate.canonical = ((predicate.namedRoot t).pruned.map (·.condition.meaning)).settled := by
  rw [← Forest.pruned_map, namedRoot, Forest.map, map_named]
  rfl

/-- A predicate without conditions says nothing. -/
theorem canonical_eq_nil (h : p.isEmpty = true) : p.canonical = .nil := by
  have hbare : (p.items.map Condition.meaning).isBare = true := by
    rwa [Forest.isBare_map]
  rw [canonical, root, Forest.map, Forest.pruned, if_pos hbare]
  rfl

theorem text?_eq_none_iff : p.text? setting semantics lead = none ↔ p.isEmpty = true := by
  rw [text?, Option.map_eq_none_iff, atoms?_eq_none_iff, isEmpty_iff]

/-- The text of a predicate is that of its only group. -/
theorem chars_of_text? (h : p.text? setting semantics lead = some text) :
    Forest.chars setting semantics lead .and true (p.namedRoot setting.arrayThreshold).pruned = text.toList := by
  obtain ⟨atoms, hatoms, rfl⟩ := Option.map_eq_some_iff.mp h
  rw [atoms?_eq_namedRoot] at hatoms
  split at hatoms
  · cases hatoms
  · obtain rfl := Option.some.inj hatoms
    rw [Sql.render_token, String.toList_ofList, Forest.chars, Forest.atoms_pruned]

theorem canonical_eq (hm : setting.marks.IsStandard)
    (htext : p.text? setting semantics lead = q.text? setting semantics lead)
    (hbind : p.bindings setting.arrayThreshold lead = q.bindings setting.arrayThreshold lead) :
    p.canonical = q.canonical := by
  cases hp : p.text? setting semantics lead with
  | none =>
    have hq := htext.symm.trans hp
    rw [canonical_eq_nil (text?_eq_none_iff.mp hp), canonical_eq_nil (text?_eq_none_iff.mp hq)]
  | some text =>
    have hchars := (chars_of_text? hp).trans (chars_of_text? (htext.symm.trans hp)).symm
    have hleaves : (p.namedRoot setting.arrayThreshold).pruned.leaves.flatMap
          (·.bindings setting.arrayThreshold lead) =
        (q.namedRoot setting.arrayThreshold).pruned.leaves.flatMap
          (·.bindings setting.arrayThreshold lead) := by
      rw [Forest.leaves_pruned, Forest.leaves_pruned, leaves_namedRoot, leaves_namedRoot]
      exact hbind
    rw [canonical_eq_namedRoot setting.arrayThreshold p, canonical_eq_namedRoot setting.arrayThreshold q]
    exact (Forest.settled_eq hm (Forest.isPruned_pruned _) (Forest.isPruned_pruned _)
      (congrArg (· ++ [')']) hchars) (congrArg (· ++ []) hleaves)).1

/-- Predicates with one text and one list of bindings say the same, and a predicate keeps both when its
    groups without conditions are left out. -/
theorem canonical_of_text (hm : setting.marks.IsStandard) :
    (∀ p q : Predicate, p.text? setting semantics lead = q.text? setting semantics lead →
      p.bindings setting.arrayThreshold lead = q.bindings setting.arrayThreshold lead →
      p.canonical = q.canonical) ∧
    ∀ p : Predicate, p.pruned.text? setting semantics lead = p.text? setting semantics lead ∧
      p.pruned.bindings setting.arrayThreshold lead = p.bindings setting.arrayThreshold lead :=
  ⟨fun _ _ htext hbind => canonical_eq hm htext hbind,
    fun p => ⟨p.text?_pruned, p.bindings_pruned setting.arrayThreshold lead⟩⟩

/-- A given name that is the field's, an empty group and the connective of one condition do not show. -/
theorem canonical_of_text_alone :
    Setting.sqlServer.marks.IsStandard ∧
      (Predicate.mk (.leaf ⟨⟨"Id", none⟩, .compare .less (.int 7), none⟩ .nil) .or true).text?
        .sqlServer .ansi "" = some "NOT ([Id] < @Id)" ∧
      (Predicate.mk (.leaf ⟨⟨"Id", none⟩, .compare .less (.int 7), none⟩ .nil) .or true).canonical =
        (Predicate.mk (.group false .or .nil
          (.leaf ⟨⟨"Id", none⟩, .compare .less (.int 7), some "Id"⟩ .nil)) .and true).canonical := by
  have hmarks : Setting.sqlServer.marks.IsStandard := ⟨by decide, rfl⟩
  have hbase : parameterBase "Id" = "Id" := by decide +kernel
  have hname : ∀ condition : Condition, parameterBase (condition.parameter.getD condition.field.name) = "Id" →
      (condition.assignName none ∅).1 = ⟨condition, "Id"⟩ := by
    intro condition h
    simp [Condition.assignName, h, TakenNames.assign, TakenNames.firstFree, TakenNames.candidate]
  have hp : (Predicate.mk (.leaf ⟨⟨"Id", none⟩, .compare .less (.int 7), none⟩ .nil) .or true).named none =
      .leaf ⟨⟨⟨"Id", none⟩, .compare .less (.int 7), none⟩, "Id"⟩ .nil := by
    simp [named, Forest.mapAccum, hname, hbase]
  have hq : (Predicate.mk (.group false .or .nil
      (.leaf ⟨⟨"Id", none⟩, .compare .less (.int 7), some "Id"⟩ .nil)) .and true).named none =
      .group false .or .nil (.leaf ⟨⟨⟨"Id", none⟩, .compare .less (.int 7), some "Id"⟩, "Id"⟩ .nil) := by
    simp [named, Forest.mapAccum, hname, hbase]
  have htext : (Predicate.mk (.leaf ⟨⟨"Id", none⟩, .compare .less (.int 7), none⟩ .nil) .or true).text?
      .sqlServer .ansi "" = some "NOT ([Id] < @Id)" := by
    rw [text?, atoms?, show Setting.sqlServer.arrayThreshold = none from rfl, hp]
    decide +kernel
  refine ⟨hmarks, htext, (canonical_of_text hmarks).1 _ _ (htext.trans ?_) ?_⟩
  · rw [text?, atoms?, show Setting.sqlServer.arrayThreshold = none from rfl, hq]
    decide +kernel
  · rw [bindings, bindings, show Setting.sqlServer.arrayThreshold = none from rfl, hp, hq]
    rfl

end Predicate

end CrudSql

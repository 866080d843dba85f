import CrudSql.Predicate.Text
import CrudSql.Proofs.Predicate.Names
import CrudSql.Proofs.Token.Nesting
import CrudSql.Proofs.Token.Placeholders

/-! The text of a predicate, as an engine reads it. Every test is neat, and so are the groups around it;
    the parameters that stand in the text are those of the bindings, in the same order. -/

namespace CrudSql
open Atom Token

/-! ### Tests -/

section Tests
variable {setting : Setting} {semantics : NullSemantics} {column lead : String} {a : List Atom}

/-- What stands behind a column and an operator. -/
theorem neat_operand {operator : String} (h : Neat a) (ho : operator ∈ phrases)
    (hl : Level (phrase operator) := by exact fun _ => rfl)
    (hopens : (fixed operator).opensFree = true := by rfl)
    (hends : (fixed operator).endsFree = true := by rfl) : Neat ([.name column, .fixed operator] ++ a) := by
  have hoperator : Neat ([.name column] ++ [.fixed operator]) :=
    (neat_name column).append (neat_fixed ho hl) (meet_of_opens rfl hopens)
  exact hoperator.append h (meet_of_ends rfl hends)

theorem neat_compare (comparison : Comparison) (h : Neat a) :
    Neat ([.name column, .fixed (" " ++ comparison.sql ++ " ")] ++ a) := by
  cases comparison
  all_goals exact neat_operand h (by simp [phrases, Comparison.sql])

theorem neat_range (negated : Bool) (h : Neat a) :
    Neat ([.name column, .fixed (" " ++ (Operator.range negated).sql ++ " ")] ++ a) := by
  cases negated
  all_goals exact neat_operand h (by simp [phrases, Operator.sql])

/-- A comparison that also holds for NULL. -/
theorem neat_compare_or_null (h : Neat a) : Neat ([.fixed "(", .name column, .fixed " <> "] ++
    (a ++ [.fixed " OR ", .name column, .fixed " IS NULL)"])) :=
  .enclosed 1 h

/-- A list in parentheses. -/
theorem neat_list (negated : Bool) (h : Neat a) :
    Neat ([.name column, .fixed (" " ++ (Operator.among negated).sql ++ " (")] ++ (a ++ [.fixed ")"])) := by
  cases negated
  all_goals exact .enclosed 1 h (by simp [Sound, phrases, Operator.sql])

/-- A list that is bound as one array. -/
theorem neat_array (negated : Bool) (h : Neat a) :
    Neat ([.name column, .fixed (if negated then " <> ALL(" else " = ANY(")] ++ (a ++ [.fixed ")"])) := by
  cases negated
  all_goals exact .enclosed 1 h

/-- A list that is read from a table of values. -/
theorem neat_values (negated : Bool) (h : Neat a) :
    Neat ([.name column, .fixed (" " ++ (Operator.among negated).sql ++ " (SELECT "), Test.valueColumn,
      .fixed " FROM (VALUES "] ++ (a ++ [.fixed ") AS Q (", Test.valueColumn, .fixed "))"])) := by
  have hown : ∀ c ∈ "Value".toList, isQuote c = false := by
    simp only [← Bool.not_eq_true', ← List.all_eq_true]
    decide
  have hbehind : ∀ atom ∈ [fixed ") AS Q (", Test.valueColumn, fixed "))"], atom.Sound := by
    simpa [Sound, phrases, Test.valueColumn] using hown
  cases negated
  all_goals
    refine .enclosed 2 h ?_ hbehind
    simpa [Sound, phrases, Operator.sql, Test.valueColumn] using hown

/-- A parameter in parentheses. -/
theorem neat_valueRow {parameter : Atom} (h : Neat [parameter]) :
    Neat ([.fixed "("] ++ ([parameter] ++ [.fixed ")"])) :=
  .enclosed 1 h

end Tests

/-! ### Named conditions -/

namespace NamedCondition
variable {setting : Setting} {semantics : NullSemantics} {lead : String} {named : NamedCondition}

theorem neat_atoms (hlead : ∀ c ∈ lead.toList, isParameterChar c = true)
    (hname : ∀ c ∈ named.name.toList, isParameterChar c = true) :
    Neat (named.atoms setting semantics lead) := by
  obtain ⟨⟨field, test, parameter⟩, name⟩ := named
  -- Whatever slots the test has, each of their parameters is a proper name.
  have hneat : ∀ slot ∈ test.slots setting.arrayThreshold, Neat [.placeholder (lead ++ name ++ slot.1)] := by
    intro slot hslot
    refine neat_placeholder fun c hc => ?_
    rw [String.toList_append, String.toList_append, List.mem_append, List.mem_append] at hc
    rcases hc with (hc | hc) | hc
    · exact hlead c hc
    · exact hname c hc
    · exact Test.isParameterChar_slot hslot c hc
  simp only [atoms, bindings, List.map_map, Function.comp_def]
  cases test with
  | null negated =>
    cases negated
    all_goals
      refine Neat.append (a := [_]) (neat_name _) (neat_fixed ?_ fun _ => rfl) (meet_of_opens rfl rfl)
      simp [phrases]
  | compare comparison value =>
    have hneat := hneat ("", .scalar value) List.mem_cons_self
    rw [Test.atoms]
    split
    · rw [List.append_assoc]
      exact neat_compare_or_null hneat
    · exact neat_compare comparison hneat
  | range negated low high =>
    rw [Test.atoms]
    refine neat_range negated (.separated (fun item hitem => ?_) (by simp))
    simp only [List.map_map, List.mem_map] at hitem
    obtain ⟨slot, hslot, rfl⟩ := hitem
    exact hneat slot hslot
  | among negated values =>
    rw [Test.atoms]
    split
    · cases negated
      all_goals exact neat_fixed (by simp [phrases]) fun _ => rfl
    · rename_i hne
      split
      · -- The one slot of an array is the whole list.
        rename_i harray
        have hexceeds : exceeds values.length setting.arrayThreshold = true := by
          by_contra hno
          simp only [ListForm.of, if_neg hno] at harray
          split at harray <;> cases harray
        have hslots : (Test.among negated values).slots setting.arrayThreshold = [("_In", .list values)] := by
          rw [Test.slots, if_neg hne, if_pos hexceeds]
        rw [hslots] at hneat ⊢
        rw [List.append_assoc]
        exact neat_array negated (hneat _ List.mem_cons_self)
      · rw [List.append_assoc]
        refine neat_values negated (.listed fun item hitem => ?_)
        simp only [List.map_map, List.mem_map] at hitem
        obtain ⟨slot, hslot, rfl⟩ := hitem
        exact neat_valueRow (hneat slot hslot)
      · rw [List.append_assoc]
        refine neat_list negated (.listed fun item hitem => ?_)
        simp only [List.map_map, List.mem_map] at hitem
        obtain ⟨slot, hslot, rfl⟩ := hitem
        exact hneat slot hslot

/-- The parameters in the text of a condition are those of its bindings. -/
theorem placeholders_atoms : Atom.placeholders (named.atoms setting semantics lead) =
    (named.bindings setting.arrayThreshold lead).map (·.1) := by
  obtain ⟨⟨field, test, parameter⟩, name⟩ := named
  cases test with
  | null => rfl
  | compare comparison value =>
    rw [atoms, Test.atoms]
    split <;> rfl
  | range => rfl
  | among negated values =>
    rw [atoms, Test.atoms]
    split
    · rename_i hempty
      rw [bindings, Test.slots, if_pos hempty]
      rfl
    · generalize bindings setting.arrayThreshold lead _ = bindings
      have harray : Atom.placeholders (bindings.map fun binding => .placeholder binding.1) =
          bindings.map (·.1) := by
        rw [Atom.placeholders, List.filterMap_map]
        exact congrFun List.filterMap_eq_map bindings
      have hitems : bindings.flatMap (fun binding => [binding.1]) = bindings.map (·.1) :=
        List.map_eq_flatMap.symm
      split
      · simpa [Atom.placeholder?] using harray
      · simpa [Atom.placeholder?, Test.valueColumn, List.flatMap_map] using hitems
      · simpa [Atom.placeholder?, List.flatMap_map] using hitems

end NamedCondition

/-! ### Groups -/

namespace Forest
variable {α : Type} {leafAtoms : α → List Atom} {forest : Forest α}

/-- A group in parentheses. -/
theorem neat_group (negated : Bool) {a : List Atom} (h : Neat a) :
    Neat ((if negated then [.fixed "NOT "] else []) ++ ([.fixed "("] ++ (a ++ [.fixed ")"]))) := by
  have hgroup : Neat ([.fixed "("] ++ (a ++ [.fixed ")"])) := .enclosed 1 h
  cases negated
  · exact hgroup
  · exact Neat.append (a := [_]) (neat_fixed (by simp [phrases]) fun _ => rfl) hgroup (meet_of_ends rfl rfl)

theorem neat_connective (connective : Connective) (isFirst : Bool) :
    Neat (if isFirst then [] else [.fixed connective.sql]) := by
  cases isFirst
  · cases connective
    all_goals exact neat_fixed (by simp [phrases, Connective.sql]) fun _ => rfl
  · exact .nil

theorem meet_connective (connective : Connective) (isFirst : Bool) (b : List Atom) :
    Meet (if isFirst then [] else [.fixed connective.sql]) b := by
  cases isFirst
  · cases connective
    all_goals exact meet_of_ends rfl rfl
  · intro x hx
    cases hx

/-- Items after the first begin with a connective, if there are any with leaves. -/
theorem meet_atoms (a : List Atom) (connective : Connective) :
    Meet a (forest.atoms leafAtoms connective false) := by
  have hopens : (Atom.fixed connective.sql).opensFree = true := by
    cases connective <;> rfl
  induction forest with
  | nil =>
    intro x _ y hy
    cases hy
  | leaf => exact meet_of_opens rfl hopens
  | group negated inward inner rest _ ih =>
    rw [atoms]
    split
    · exact ih
    · exact meet_of_opens rfl hopens

theorem neat_atoms (h : ∀ x ∈ forest.leaves, Neat (leafAtoms x)) (connective : Connective)
    (isFirst : Bool) : Neat (forest.atoms leafAtoms connective isFirst) := by
  induction forest generalizing connective isFirst with
  | nil => exact .nil
  | leaf value rest ih =>
    simp only [leaves, List.forall_mem_cons] at h
    have hleaf := (neat_connective connective isFirst).append h.1 (meet_connective connective isFirst _)
    exact hleaf.append (ih h.2 connective false) (meet_atoms _ connective)
  | group negated inward inner rest ihi ihr =>
    simp only [leaves, List.forall_mem_append] at h
    rw [atoms]
    split
    · exact ihr h.2 connective isFirst
    · have hgroup := neat_group negated (ihi h.1 inward true)
      have hitem := (neat_connective connective isFirst).append hgroup (meet_connective connective isFirst _)
      simpa only [List.append_assoc] using
        hitem.append (ihr h.2 connective false) (meet_atoms _ connective)

theorem placeholders_atoms (connective : Connective) (isFirst : Bool) :
    Atom.placeholders (forest.atoms leafAtoms connective isFirst) =
      forest.leaves.flatMap fun x => Atom.placeholders (leafAtoms x) := by
  have hconnective : ∀ (first : Bool) (text : String),
      Atom.placeholders (if first then [] else [.fixed text]) = [] := by
    intro first text
    cases first <;> rfl
  induction forest generalizing connective isFirst with
  | nil => rfl
  | leaf value rest ih => simp [atoms, leaves, hconnective, ih]
  | group negated inward inner rest ihi ihr =>
    rw [atoms, leaves]
    split
    · rename_i hbare
      rw [isBare_iff.mp hbare, List.nil_append]
      exact ihr connective isFirst
    · have hnot : Atom.placeholders (if negated then [.fixed "NOT "] else []) = [] := by
        cases negated <;> rfl
      simp [hconnective, hnot, ihi, ihr, Atom.placeholder?]

end Forest

/-! ### Predicates -/

namespace Predicate
variable {setting : Setting} {semantics : NullSemantics} {lead : String} {predicate : Predicate}
  {text : List Atom}

theorem isEmpty_iff : predicate.isEmpty = true ↔ predicate.conditions = [] := Forest.isBare_iff

theorem atoms?_eq_none_iff :
    predicate.atoms? setting semantics lead = none ↔ predicate.conditions = [] := by
  rw [atoms?, ← isEmpty_iff]
  split <;> simp_all

theorem neat_atoms (hlead : ∀ c ∈ lead.toList, isParameterChar c = true)
    (h : predicate.atoms? setting semantics lead = some text) : Neat text := by
  obtain ⟨after, hnamed⟩ := predicate.named_leaves setting.arrayThreshold
  rw [atoms?] at h
  split at h
  · cases h
  · cases h
    have hconditions : ∀ condition ∈ (predicate.named setting.arrayThreshold).leaves,
        Neat (condition.atoms setting semantics lead) := fun condition hcondition =>
      condition.neat_atoms hlead (hnamed.characters condition hcondition)
    have hitems := Forest.neat_atoms hconditions predicate.connective true
    simpa only [List.append_assoc] using Forest.neat_group predicate.negated hitems

/-- The parameters in the text are those of the bindings, in the same order. -/
theorem placeholders_atoms (h : predicate.atoms? setting semantics lead = some text) :
    Atom.placeholders text = (predicate.bindings setting.arrayThreshold lead).map (·.1) := by
  rw [atoms?] at h
  split at h
  · cases h
  · cases h
    have hnot : Atom.placeholders (if predicate.negated then [.fixed "NOT "] else []) = [] := by
      cases predicate.negated <;> rfl
    simp [hnot, Atom.placeholder?, Forest.placeholders_atoms, NamedCondition.placeholders_atoms, bindings,
      List.map_flatMap]

end Predicate

namespace Sql
variable {setting : Setting} {filter : Option Filter}

/-- The text of a token alone. -/
theorem render_token (atoms : List Atom) :
    render setting [.token atoms] = String.ofList (atoms.flatMap (·.chars setting)) := by
  rw [render, chars, onto, List.foldl_cons, List.foldl_nil, Piece.after]
  split
  · rename_i hnil
    rw [hnil]
    rfl
  · simp [Piece.gap]

theorem neat_whereClause
    (hlead : ∀ f ∈ filter, ∀ c ∈ f.lead.toList, isParameterChar c = true) :
    Neat (whereClause setting filter) := by
  cases filter with
  | none => exact .nil
  | some filter =>
    rw [whereClause]
    split
    · exact .nil
    · rename_i atoms hatoms
      exact (neat_word "WHERE").append (neat_token (Predicate.neat_atoms (hlead filter rfl) hatoms))

end Sql

namespace Predicate
variable {setting : Setting} {semantics : NullSemantics} {lead : String} {predicate : Predicate}

/-- The clause of a filter is its text behind a keyword. -/
theorem render_whereClause (filter : Filter) : Sql.render setting (Sql.whereClause setting (some filter)) =
    match filter.predicate.text? setting filter.semantics filter.lead with
    | none => ""
    | some text => "WHERE " ++ text := by
  rw [Sql.whereClause, text?]
  cases hatoms : filter.predicate.atoms? setting filter.semantics filter.lead with
  | none => rfl
  | some atoms =>
    have hne : atoms.flatMap (·.chars setting) ≠ [] := by
      intro hnil
      have hparen : Atom.fixed "(" ∈ atoms := by
        rw [atoms?] at hatoms
        split at hatoms <;> cases hatoms
        simp
      cases List.flatMap_eq_nil_iff.mp hnil _ hparen
    obtain ⟨c, cs, hcs⟩ := List.exists_cons_of_ne_nil hne
    have hword : (Sql.word "WHERE").onto setting [] = "WHERE".toList.reverse := rfl
    apply String.toList_injective
    simp only [Sql.render, Sql.chars, Sql.onto_append, hword]
    simp [Sql.onto, Piece.after, hcs, Piece.gap]

/-- An engine meets the parameters of the bindings in the text, in the same order and each once. Only a
    predicate without conditions has no text, and then it has no bindings. -/
theorem parameters_of_text (h : setting.marks.IsStandard)
    (hlead : ∀ c ∈ lead.toList, isParameterChar c = true) :
    match predicate.text? setting semantics lead with
    | none => predicate.conditions = [] ∧ predicate.bindings setting.arrayThreshold lead = []
    | some text => predicate.conditions ≠ [] ∧
      ∃ tokens, setting.marks.read text.toList = some tokens ∧
        tokens.filterMap (·.placeholder?) = (predicate.bindings setting.arrayThreshold lead).map (·.1) ∧
        (tokens.filterMap (·.placeholder?)).Nodup := by
  rw [text?]
  cases hatoms : predicate.atoms? setting semantics lead with
  | none =>
    have hnone := atoms?_eq_none_iff.mp hatoms
    have hbare := (predicate.isBare_named setting.arrayThreshold).trans (isEmpty_iff.mpr hnone)
    refine ⟨hnone, ?_⟩
    rw [bindings, Forest.isBare_iff.mp hbare]
    rfl
  | some atoms =>
    have hneat := Sql.neat_token (neat_atoms hlead hatoms)
    refine ⟨fun hnone => ?_, _, Sql.read_render hneat.sound h, ?_⟩
    · rw [atoms?_eq_none_iff.mpr hnone] at hatoms
      cases hatoms
    · rw [hneat.sound.filterMap_tokens, Sql.placeholders_token, placeholders_atoms hatoms,
        Sql.placeholders_nil, List.append_nil]
      exact ⟨rfl, predicate.nodup_names setting.arrayThreshold lead⟩

/-- The column `Id]@x`, compared with a number in an update. -/
theorem parameters_of_text_quoted :
    Setting.sqlServer.marks.IsStandard ∧ (∀ c ∈ "_".toList, isParameterChar c = true) ∧
      ∃ text tokens, (ofCondition { field := { name := "Id]@x" }, test := .compare .less (.int 7) }).text?
          .sqlServer .ansi "_" = some text ∧
        Setting.sqlServer.marks.read text.toList = some tokens ∧
        tokens.filterMap (·.placeholder?) = ["_Id__x"] := by
  have hmarks : Setting.sqlServer.marks.IsStandard := ⟨by decide, rfl⟩
  have hlead : ∀ c ∈ "_".toList, isParameterChar c = true := List.all_eq_true.mp (by decide)
  have h := @parameters_of_text .sqlServer .ansi "_"
    (ofCondition { field := { name := "Id]@x" }, test := .compare .less (.int 7) }) hmarks hlead
  refine ⟨hmarks, hlead, ?_⟩
  split at h
  · cases h.1
  · rename_i text htext
    obtain ⟨-, tokens, hread, hnames, -⟩ := h
    have hbase : parameterBase "Id]@x" = "Id__x" := by
      decide +kernel
    refine ⟨text, tokens, htext, hread, hnames.trans ?_⟩
    simp [bindings, named, ofCondition, Forest.mapAccum, Forest.leaves, Condition.assignName, hbase,
      TakenNames.assign, TakenNames.firstFree, TakenNames.candidate, NamedCondition.bindings, Test.slots]

end Predicate

end CrudSql

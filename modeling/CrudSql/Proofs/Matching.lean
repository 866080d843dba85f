import CrudSql.Proofs.Column
import CrudSql.Proofs.Write

/-! The fields by which rows are matched. Those that are wanted are looked for among the fields of the
    request, and then the fields of the request among those that are wanted. Both ways find the same if the
    names are plain. A name with quotes of its own is found in one way only, and then nothing may be left to
    match rows by. -/

namespace CrudSql

/-! ### Wanted names -/

/-- The names of the given qualifiers, if there are any, and otherwise of the primary columns. -/
def Write.matchNames (write : Write) : List String :=
  match write.qualifiers.filter fun set => !set.isEmpty with
  | some qualifiers => qualifiers.names
  | none => write.columns.namesOf (·.isPrimary)

/-- Fields of a request, in its order and spelling, that have exactly the given names but for case. -/
structure FieldSet.HasExactly (set fields : FieldSet) (names : List String) : Prop where
  nonempty : set.isEmpty = false
  requested : set.fields.Sublist fields.fields
  wanted : ∀ field ∈ set.fields, ∃ name ∈ names, sameName field.name name = true
  complete : ∀ name ∈ names, ∃ field ∈ set.fields, sameName field.name name = true

namespace Plan
variable {write : Write} {table : Ident} {fields wanted set : FieldSet} {field : Field}

/-- The wanted fields have the wanted names. -/
theorem Wanted.names (h : Wanted write.columns write.qualifiers wanted)
    (hn : ∀ name ∈ write.matchNames, name ∈ write.columns.namesOf (·.isPrimary) → Field.IsPlain { name }) :
    (∀ w ∈ wanted.fields, w.name ∈ write.matchNames) ∧
      ∀ name ∈ write.matchNames, ∃ w ∈ wanted.fields, sameName w.name name = true := by
  unfold Wanted at h
  unfold Write.matchNames at hn ⊢
  cases hgiven : write.qualifiers.filter fun set => !set.isEmpty with
  | some qualifiers =>
    simp only [hgiven] at h ⊢
    subst h
    refine ⟨fun w hw => List.mem_map_of_mem hw, fun name hname => ?_⟩
    obtain ⟨w, hw, rfl⟩ := List.mem_map.mp hname
    exact ⟨w, hw, sameName_refl _⟩
  | none =>
    simp only [hgiven] at h hn ⊢
    exact Columns.names_primaryFields h fun name hname => hn name hname hname

/-- Of fields with plain names, those with a wanted name match rows. -/
theorem mem_matchFields (write : Write) (hf : ∀ field ∈ fields.fields, field.IsPlain)
    (hn : ∀ name ∈ write.matchNames, name ∈ write.columns.namesOf (·.isPrimary) → Field.IsPlain { name })
    (h : (matchFields table fields write.columns write.qualifiers).outcome = .ok set) :
    field ∈ set.fields ↔ field ∈ fields.fields ∧ ∃ name ∈ write.matchNames, sameName field.name name = true := by
  obtain ⟨wanted, hwanted, -, -, rfl⟩ := matchFields_eq_ok_iff.mp h
  obtain ⟨hnames, hall⟩ := hwanted.names hn
  rw [FieldSet.fields_filter, List.mem_filter, FieldSet.contains_iff]
  refine and_congr_right fun hfield => ?_
  constructor
  · rintro ⟨w, hw, hname⟩
    rw [Field.hasName_of_plain (hf field hfield)] at hname
    exact ⟨w.name, hnames w hw, (sameName_comm _ _).trans hname⟩
  · rintro ⟨name, hname, hsame⟩
    obtain ⟨w, hw, hwname⟩ := hall name hname
    refine ⟨w, hw, ?_⟩
    rw [Field.hasName_of_plain (hf field hfield)]
    exact sameName_trans hwname ((sameName_comm _ _).trans hsame)

/-- The fields that match rows have the wanted names, all of them, where the names are plain. -/
theorem hasExactly_of_matchFields (write : Write) (hf : ∀ field ∈ fields.fields, field.IsPlain)
    (hn : ∀ name ∈ write.matchNames, Field.IsPlain { name })
    (h : (matchFields table fields write.columns write.qualifiers).outcome = .ok set) :
    set.HasExactly fields write.matchNames := by
  have hmember : ∀ field, field ∈ set.fields ↔ field ∈ fields.fields ∧ _ := fun field =>
    mem_matchFields write hf (fun name hname _ => hn name hname) h
  obtain ⟨wanted, hwanted, hne, hsubset, hset⟩ := matchFields_eq_ok_iff.mp h
  obtain ⟨hnames, hall⟩ := hwanted.names fun name hname _ => hn name hname
  have hfound : ∀ w ∈ wanted.fields, ∃ field ∈ set.fields, sameName field.name w.name = true := by
    intro w hw
    obtain ⟨field, hfield, hname⟩ := FieldSet.contains_iff.mp (List.all_eq_true.mp hsubset w hw)
    rw [Field.hasName_of_plain (hn _ (hnames w hw))] at hname
    exact ⟨field, (hmember field).mpr ⟨hfield, w.name, hnames w hw, hname⟩, hname⟩
  refine ⟨?_, ?_, fun field hfield => ((hmember field).mp hfield).2, fun name hname => ?_⟩
  · obtain ⟨w, hw⟩ := List.exists_mem_of_ne_nil _ (List.isEmpty_eq_false_iff.mp hne)
    obtain ⟨field, hfield, -⟩ := hfound w hw
    exact List.isEmpty_eq_false_iff.mpr (List.ne_nil_of_mem hfield)
  · rw [hset]
    exact List.filter_sublist
  · obtain ⟨w, hw, hwname⟩ := hall name hname
    obtain ⟨field, hfield, hfname⟩ := hfound w hw
    exact ⟨field, hfield, sameName_trans hfname hwname⟩

end Plan

theorem FieldSet.HasExactly.of_sublist {set source fields : FieldSet} {names : List String}
    (h : set.HasExactly source names) (hs : source.fields.Sublist fields.fields) : set.HasExactly fields names :=
  ⟨h.nonempty, h.requested.trans hs, h.wanted, h.complete⟩

section Plans
variable {engine : Engine} {field : Field}

namespace MergePlan.Accepted
variable {request : MergeRequest} {rows : Nat} {plan : MergePlan} (h : MergePlan.Accepted engine request rows plan)
  (hf : ∀ field ∈ request.fields.fields, field.IsPlain)

include h hf

theorem mem_qualifiers (hn : ∀ name ∈ request.columns.namesOf (·.isPrimary), Field.IsPlain { name }) :
    field ∈ plan.qualifiers.fields ↔
      field ∈ plan.source.fields ∧ ∃ name ∈ request.write.matchNames, sameName field.name name = true :=
  Plan.mem_matchFields request.write (fun field hfield => hf field (h.source_sublist.subset hfield))
    (fun name _ hprimary => hn name hprimary) h.qualifiers

theorem hasExactly (hn : ∀ name ∈ request.write.matchNames, Field.IsPlain { name }) :
    plan.qualifiers.HasExactly plan.source request.write.matchNames :=
  Plan.hasExactly_of_matchFields request.write (fun field hfield => hf field (h.source_sublist.subset hfield)) hn
    h.qualifiers

end MergePlan.Accepted

namespace UpdatePlan.AcceptedRows
variable {request : UpdateRequest} {plan : UpdatePlan} (h : UpdatePlan.AcceptedRows engine request plan)
  (hf : ∀ field ∈ request.fields.fields, field.IsPlain)

include h hf

theorem mem_qualifiers (hn : ∀ name ∈ request.columns.namesOf (·.isPrimary), Field.IsPlain { name }) :
    field ∈ plan.qualifiers.fields ↔
      field ∈ request.fields.fields ∧ ∃ name ∈ request.write.matchNames, sameName field.name name = true :=
  Plan.mem_matchFields request.write hf (fun name _ hprimary => hn name hprimary) h.qualifiers

theorem hasExactly (hn : ∀ name ∈ request.write.matchNames, Field.IsPlain { name }) :
    plan.qualifiers.HasExactly request.fields request.write.matchNames :=
  Plan.hasExactly_of_matchFields request.write hf hn h.qualifiers

end UpdatePlan.AcceptedRows

end Plans

/-! ### Statements -/

/-- An insert that looks for a row that is already there: among those that have the same values in the
    fields or, where the table's own keys decide that, with something to assign to it. -/
def Conflict.IsMatchedBy (set : FieldSet) : Conflict → Prop
  | fail => False
  | onConflict qualifiers _ => qualifiers = set
  | onDuplicateKey assignments => assignments ≠ []

/-- A statement whose rows are matched by the fields. -/
def Statement.IsMatchedBy (set : FieldSet) : Statement → Prop
  | insert i => i.conflict.IsMatchedBy set
  | merge m => m.qualifiers = some set
  | update _ _ _ (.matching qualifiers) => qualifiers = set
  | _ => False

/-- Statements that write, all of them to rows that are matched by the fields. -/
structure MatchedBy (set : FieldSet) (statements : List Statement) : Prop where
  writes : ∃ s ∈ statements, s.IsWrite
  matched : ∀ s ∈ statements, s.IsWrite → s.IsMatchedBy set

/-- There is always something to assign to a row that is already there. -/
theorem MySql.assignments_ne_nil {plan : MergePlan} (h : plan.qualifiers.isEmpty = false) (row : Nat) :
    assignments plan row ≠ [] := by
  obtain ⟨identity, -, hassignments⟩ := assignments_eq plan row
  rw [hassignments]
  dsimp only
  split
  · rw [Ne, List.map_eq_nil_iff, List.take_eq_nil_iff, not_or]
    exact ⟨one_ne_zero, List.isEmpty_eq_false_iff.mp h⟩
  · rename_i hwritten
    exact fun hnil => hwritten (List.isEmpty_iff.mpr hnil)

namespace Request

/-- Requests whose rows are matched one by one. -/
def IsMatched : Request → Prop
  | updateAll _ | merge _ | mergeAll _ => True
  | _ => False

end Request

namespace Engine
variable {engine : Engine} {request : Request} {write : Write}

theorem matchedBy_mergeStatements {plan : MergePlan} (hr : plan.rows ≠ 0)
    (hq : plan.qualifiers.isEmpty = false) : MatchedBy plan.qualifiers (engine.mergeStatements plan) where
  writes := exists_isWrite_mergeStatements hr
  matched s hs hw := by
    have h := hasStatement_mergeStatements hs
    generalize engine.dialect = dialect at h
    cases h with
    | identityInsert | selectKeys => cases hw
    | merge m hq => exact hq
    | onConflict i _ hf =>
      show i.conflict.IsMatchedBy _
      rw [hf]
      rfl
    | onDuplicateKey i row _ hf =>
      show i.conflict.IsMatchedBy _
      rw [hf]
      exact MySql.assignments_ne_nil hq row

theorem matchedBy_updates {plan : UpdatePlan} (hr : plan.rows ≠ 0) :
    MatchedBy plan.qualifiers ((List.range plan.rows).map fun row =>
      .update plan.target plan.updates row (.matching plan.qualifiers)) where
  writes := ⟨_, List.mem_map_of_mem (List.mem_range.mpr (Nat.pos_of_ne_zero hr)), trivial⟩
  matched s hs _ := by
    obtain ⟨row, -, rfl⟩ := List.mem_map.mp hs
    rfl

/-- Rows are matched by exactly the fields that are wanted. Where rows are merged or updated one by one, with
    plain names, the fields that match them are fields of the request in its order and spelling, at least
    one, with exactly the names of the given qualifiers or else of the primary columns; and every statement
    that writes matches its rows by them. -/
theorem matchedBy_of_build (hw : request.write? = some write) (hm : request.IsMatched)
    (hf : ∀ field ∈ write.fields.fields, field.IsPlain) (hn : ∀ name ∈ write.matchNames, Field.IsPlain { name })
    {sql : String} (h : (engine.build request).outcome = .ok sql) :
    ∃ statements set, (engine.statements request).outcome = .ok statements ∧
      sql = Statement.render engine.setting statements ∧ set.HasExactly write.fields write.matchNames ∧
      MatchedBy set statements := by
  obtain ⟨statements, hstatements, rfl⟩ := build_eq_ok_iff.mp h
  refine ⟨statements, ?_⟩
  cases request with
  | merge request | mergeAll request =>
    cases hw
    obtain ⟨plan, hplan, rfl⟩ := merge_eq_ok_iff.mp hstatements
    have hset := hplan.hasExactly hf hn
    have hrows : plan.rows ≠ 0 := hplan.batch ▸ Check.rows_eq_ok_iff.mp hplan.hasRows
    exact ⟨plan.qualifiers, hstatements, rfl, hset.of_sublist hplan.source_sublist,
      matchedBy_mergeStatements hrows hset.nonempty⟩
  | updateAll request =>
    cases hw
    obtain ⟨plan, hplan, rfl⟩ := updateAll_eq_ok_iff.mp hstatements
    have hrows : plan.rows ≠ 0 := hplan.batch ▸ Check.rows_eq_ok_iff.mp hplan.hasRows
    exact ⟨plan.qualifiers, hstatements, rfl, hplan.hasExactly hf hn, matchedBy_updates hrows⟩
  | _ => cases hm

/-- A row that is matched by its key, which the caller spells in another way than the table. -/
theorem matchedBy_of_build_primary :
    let engine : Engine := { dialect := .postgreSql }
    let fields : FieldSet := ⟨[{ name := "Name" }, { name := "ID" }], of_decide_eq_true rfl⟩
    let columns : Columns := ⟨[{ name := "Id", isPrimary := true }]⟩
    let request : Request := .merge { table := "T", fields, columns }
    let write : Write := { fields, columns }
    request.write? = some write ∧ request.IsMatched ∧ (∀ field ∈ fields.fields, field.IsPlain) ∧
      (∀ name ∈ write.matchNames, Field.IsPlain { name }) ∧ write.matchNames = ["Id"] ∧
      ∃ sql, (engine.build request).outcome = .ok sql ∧ ∃ statements set,
        (engine.statements request).outcome = .ok statements ∧ sql = Statement.render engine.setting statements ∧
        set.HasExactly fields ["Id"] ∧ MatchedBy set statements := by
  intro engine fields columns request write
  have hf : ∀ field ∈ fields.fields, field.IsPlain := by
    decide
  have hn : ∀ name ∈ write.matchNames, Field.IsPlain { name } := by
    decide
  have hplan : MergePlan.Accepted engine { table := "T", fields, columns } 1 {
      target := ⟨⟨["T"]⟩, none⟩
      source := fields
      columns := fields
      qualifiers := ⟨[{ name := "ID" }], List.pairwise_singleton _ _⟩
      updates := ⟨[{ name := "Name" }], List.pairwise_singleton _ _⟩
      identity := none
      keys := [⟨{ name := "Id" }, .supplied⟩]
      rows := 1
      writesIdentity := false } := by
    with_unfolding_all decide
  have hstatements : (engine.statements request).outcome = .ok _ := merge_eq_ok_iff.mpr ⟨_, hplan, rfl⟩
  have hbuild := build_eq_ok_iff.mpr ⟨_, hstatements, rfl⟩
  exact ⟨rfl, trivial, hf, hn, rfl, _, hbuild, @matchedBy_of_build engine request write rfl trivial hf hn _ hbuild⟩

/-- A qualifier with quotes of its own is found among the fields, none of which is it. Then rows are matched
    by nothing. -/
theorem matchedBy_quoted_missing :
    let engine : Engine := { dialect := .postgreSql }
    let fields : FieldSet := ⟨[{ name := "a" }, { name := "b" }], of_decide_eq_true rfl⟩
    let qualifiers : FieldSet := .singleton { name := "[a]" }
    let request : Request := .merge { table := "T", fields, columns := {}, qualifiers := some qualifiers }
    FieldSet.parse ["[[a]]"] = .ok qualifiers ∧
      (∀ field ∈ fields.fields, sameName field.name "[a]" = false) ∧
      (engine.build request).outcome = .ok ("INSERT INTO \"T\" (\"a\", \"b\") VALUES (@a, @b) " ++
        "ON CONFLICT () DO UPDATE SET \"a\" = EXCLUDED.\"a\", \"b\" = EXCLUDED.\"b\";") := by
  intro engine fields qualifiers request
  have hplan : MergePlan.Accepted engine
      { table := "T", fields, columns := {}, qualifiers := some qualifiers } 1 {
      target := ⟨⟨["T"]⟩, none⟩
      source := fields
      columns := fields
      qualifiers := .empty
      updates := fields
      identity := none
      keys := []
      rows := 1
      writesIdentity := false } := by
    with_unfolding_all decide
  have hstatements : (engine.statements request).outcome = .ok _ := merge_eq_ok_iff.mpr ⟨_, hplan, rfl⟩
  refine ⟨by decide, by decide, build_eq_ok_iff.mpr ⟨_, hstatements, ?_⟩⟩
  with_unfolding_all decide

end Engine

end CrudSql

import CrudSql.Proofs.Check.Names
import CrudSql.Proofs.Limit

/-! Updates of the rows of a filter. The columns that are set and the filter have parameters of their own,
    those of the filter behind an underscore. As a column may have a name with an underscore too, an update
    is refused where two parameters are the same but for case, and only there. -/

namespace CrudSql
open Text Plan

/-! ### Names behind an underscore -/

section Underscore
variable {before cs rest : List Char} {name other : String} {setting : Setting}

/-- The name of a parameter as it is compared: behind its mark and in lower case. -/
def placeholderKey (setting : Setting) (name : String) : String :=
  lower (String.ofList [setting.parameterMark] ++ name)

/-- Nothing but an underscore becomes one, and what follows it does not depend on what precedes it. -/
theorem lowerAfter_eq_underscore_iff :
    lowerAfter before cs = '_' :: rest ↔ ∃ tail, cs = '_' :: tail ∧ lowerChars tail = rest := by
  have hend := isWordEnd_of_numbering (.inl rfl : '_' = '_' ∨ _)
  have hunderscore : ∀ tail, lowerAfter before ('_' :: tail) = '_' :: lowerChars tail := by
    intro tail
    have htail : lowerAfter ('_' :: before) tail = lowerChars tail := hend.1.lowerAfter_context (a := []) tail
    rw [lowerAfter, if_neg hend.1.ne_sigma, hend.2, htail]
    rfl
  have hcaseless : hasCase '_' = false := by
    decide
  constructor
  · intro h
    cases cs with
    | nil => cases h
    | cons c tail =>
      have hc : c = '_' := by
        rw [lowerAfter] at h
        split at h
        · have hsigma := (List.cons.inj h).1
          split at hsigma <;> exact absurd hsigma (by decide)
        · obtain ⟨d, ds, hds⟩ := List.exists_cons_of_ne_nil (lowerChar_ne_nil c)
          rw [hds, List.cons_append, List.cons.injEq] at h
          exact eq_of_mem_lowerChar hcaseless (hds ▸ h.1 ▸ List.mem_cons_self)
      subst hc
      rw [hunderscore, List.cons.injEq] at h
      exact ⟨tail, rfl, h.2⟩
  · rintro ⟨tail, rfl, rfl⟩
    exact hunderscore tail

theorem toList_placeholderKey (setting : Setting) (name : String) : (placeholderKey setting name).toList =
    lowerChars [setting.parameterMark] ++ lowerAfter [setting.parameterMark] name.toList := by
  rw [placeholderKey, toList_lower, String.toList_append, String.toList_ofList]
  exact lowerChars_cons ..

theorem lowerAfter_lead (before : List Char) (name : String) :
    lowerAfter before (Engine.updateLead ++ name).toList = '_' :: lowerChars name.toList :=
  lowerAfter_eq_underscore_iff.mpr ⟨name.toList, by rw [String.toList_append]; rfl, rfl⟩

/-- The mark makes no difference to a comparison with a name behind an underscore. -/
theorem placeholderKey_eq_iff : placeholderKey setting name = placeholderKey setting (Engine.updateLead ++ other) ↔
    lower name = lower (Engine.updateLead ++ other) := by
  rw [← String.toList_inj, ← String.toList_inj, toList_placeholderKey, toList_placeholderKey,
    List.append_cancel_left_eq, toList_lower, toList_lower, lowerChars, lowerChars, lowerAfter_lead, lowerAfter_lead,
    lowerAfter_eq_underscore_iff, lowerAfter_eq_underscore_iff]

theorem placeholderKey_lead_inj : placeholderKey setting (Engine.updateLead ++ name) =
    placeholderKey setting (Engine.updateLead ++ other) ↔ lower name = lower other := by
  rw [placeholderKey_eq_iff, ← String.toList_inj, ← String.toList_inj, toList_lower, toList_lower, toList_lower,
    toList_lower, lowerChars, lowerChars, lowerAfter_lead, lowerAfter_lead, List.cons.injEq]
  simp

/-- Behind a mark that is not cased, names are the same but for case exactly if they are so alone. -/
theorem placeholderKey_of_uncased (h : isCased setting.parameterMark = false) (name : String) :
    placeholderKey setting name = lower (String.ofList [setting.parameterMark]) ++ lower name := by
  have hname : lowerAfter ([] ++ [setting.parameterMark]) name.toList = lowerChars name.toList :=
    lowerAfter_of_uncased h _
  rw [← String.toList_inj, toList_placeholderKey, String.toList_append, toList_lower, toList_lower,
    String.toList_ofList]
  exact congrArg _ hname

theorem nodup_lower_of_uncased {names : List String} (hm : isCased setting.parameterMark = false)
    (h : (names.map (placeholderKey setting)).Nodup) : (names.map lower).Nodup := by
  have hkeys : names.map (placeholderKey setting) =
      (names.map lower).map (lower (String.ofList [setting.parameterMark]) ++ ·) := by
    rw [List.map_map]
    exact List.map_congr_left fun name _ => placeholderKey_of_uncased hm name
  rw [hkeys] at h
  exact h.of_map

end Underscore

namespace UpdateRequest

/-- The fields that are set: neither keys nor generated columns, nor those that keep their value. -/
def updates (request : UpdateRequest) : FieldSet := request.fields.filter fun field =>
  !(request.columns.get? field.name).any (fun column =>
      column.isPrimary || column.isIdentity || column.isGenerated) &&
    !isAmong field.name request.keep

/-- The parameters of the fields that are set. -/
def setNames (request : UpdateRequest) : List String := rowParameters request.updates.fields 0

/-- The parameters of the filter, with what an update puts before them. -/
def filterNames (request : UpdateRequest) (setting : Setting) : List String :=
  (filterBindings setting.arrayThreshold Engine.updateLead request.filter).map (·.1)

/-- All checks of the request pass, but perhaps that of the names of its parameters. -/
structure PassesRest (engine : Engine) (request : UpdateRequest) : Prop where
  table : ∃ table, Check.table request.table = .ok table
  hasFields : Check.fields request.fields = .ok ()
  knowsHints : Check.hints engine request.hints = .ok ()
  hasUpdates : request.updates.isEmpty = false
  filter : ∃ bindings,
    Check.filter engine.setting Engine.updateLead request.updates.size request.filter = .ok bindings

variable {engine : Engine} {request : UpdateRequest} {setting : Setting}

theorem filterNames_eq_map (request : UpdateRequest) (setting : Setting) : ∃ names : List String,
    request.filterNames setting = names.map (Engine.updateLead ++ ·) ∧ (names.map lower).Nodup := by
  unfold filterNames
  cases request.filter with
  | none => exact ⟨[], rfl, .nil⟩
  | some filter => exact ⟨_, filter.names_bindings .., filter.nodup_keys _⟩

/-- No two parameters of a filter are the same but for case. -/
theorem nodup_filterNames (request : UpdateRequest) (setting : Setting) :
    ((request.filterNames setting).map (placeholderKey setting)).Nodup := by
  obtain ⟨names, hnames, hnodup⟩ := request.filterNames_eq_map setting
  rw [hnames, List.map_map]
  refine List.pairwise_map.mpr ((List.pairwise_map.mp hnodup).imp fun hne hsame => hne ?_)
  exact placeholderKey_lead_inj.mp hsame

theorem parameterNames_updates_iff : Check.parameterNames setting request.updates 1 = .ok () ↔
    (request.setNames.map (placeholderKey setting)).Nodup := by
  have hkeys : (Check.places request.updates.fields 1).map (Check.key setting) =
      request.setNames.map (placeholderKey setting) := by
    simp [Check.places, setNames, rowParameters, Function.comp_def, Check.key, placeholderKey]
  rw [Check.parameterNames_eq_ok_iff, hkeys]

/-- The check that compares the names alone tells those of the fields from those of the filter. -/
theorem apart_iff : (∀ field ∈ request.updates.fields, ∀ name ∈ request.filterNames setting,
    lower (parameterBase field.name) ≠ lower name) ↔
      ∀ a ∈ request.setNames.map (placeholderKey setting),
        ∀ b ∈ (request.filterNames setting).map (placeholderKey setting), a ≠ b := by
  obtain ⟨names, hnames, -⟩ := request.filterNames_eq_map setting
  simp only [setNames, rowParameters, hnames, List.map_map, List.forall_mem_map, Function.comp_apply, ne_eq,
    placeholderKey_eq_iff]
  rfl

theorem exists_plan_iff : (∃ plan, UpdatePlan.AcceptedFilter engine request Engine.updateLead plan) ↔
    request.PassesRest engine ∧ Check.parameterNames engine.setting request.updates 1 = .ok () ∧
      ∀ field ∈ request.updates.fields, ∀ name ∈ request.filterNames engine.setting,
        lower (parameterBase field.name) ≠ lower name := by
  have hbindings : ∀ {bindings}, Check.filter engine.setting Engine.updateLead request.updates.size request.filter =
      .ok bindings → bindings.map (·.1) = request.filterNames engine.setting := fun h => by
    rw [(Check.filter_eq_ok_iff.mp h).1, filterNames]
  constructor
  · rintro ⟨plan, h⟩
    have hupdates : plan.updates = request.updates := h.updates
    obtain ⟨bindings, hfilter, hapart⟩ := h.filter
    rw [hupdates] at hfilter hapart
    have hrest : request.PassesRest engine :=
      ⟨⟨_, h.table⟩, h.hasFields, h.knowsHints, hupdates ▸ h.hasUpdates, _, hfilter⟩
    refine ⟨hrest, hupdates ▸ h.names, ?_⟩
    rw [← hbindings hfilter]
    simpa using hapart
  · rintro ⟨⟨⟨table, htable⟩, hfields, hhints, hupdates, bindings, hfilter⟩, hnames, hapart⟩
    rw [← hbindings hfilter] at hapart
    exact ⟨{ target := ⟨table, request.hints⟩, updates := request.updates },
      ⟨htable, rfl, rfl, rfl, rfl, hfields, hhints, hupdates, hnames, bindings, hfilter, by simpa using hapart⟩⟩

/-- An update is accepted exactly if the other checks pass and no two of its parameters are the same but for
    case. -/
theorem exists_update_iff : (∃ statement, engine.update request = .ok statement) ↔ request.PassesRest engine ∧
    ((request.setNames ++ request.filterNames engine.setting).map (placeholderKey engine.setting)).Nodup := by
  have hplan : (∃ statement, engine.update request = .ok statement) ↔
      ∃ plan, UpdatePlan.AcceptedFilter engine request Engine.updateLead plan := by
    simp only [Engine.update, bind_eq_ok, pure_eq_ok, UpdatePlan.ofFilter_eq_ok_iff]
    constructor
    · rintro ⟨_, plan, hplan, -⟩
      exact ⟨plan, hplan⟩
    · rintro ⟨plan, hplan⟩
      exact ⟨_, plan, hplan, rfl⟩
  rw [hplan, exists_plan_iff, parameterNames_updates_iff, apart_iff, List.map_append, List.nodup_append]
  simp only [request.nodup_filterNames engine.setting, true_and]

/-- Where two parameters are the same but for case, one at least is that of a field that is set. -/
theorem exists_shared (h : ¬((request.setNames ++ request.filterNames setting).map (placeholderKey setting)).Nodup) :
    (∃ (i j : Nat) (_ : i < j) (_ : j < request.setNames.length),
      placeholderKey setting request.setNames[i] = placeholderKey setting request.setNames[j]) ∨
    ∃ name ∈ request.setNames, ∃ other ∈ request.filterNames setting,
      placeholderKey setting name = placeholderKey setting other := by
  by_cases hset : (request.setNames.map (placeholderKey setting)).Nodup
  · refine Or.inr ?_
    rw [List.map_append, List.nodup_append] at h
    simp only [hset, request.nodup_filterNames setting, true_and, List.forall_mem_map, not_forall, not_not] at h
    obtain ⟨name, hname, other, hother, hsame⟩ := h
    exact ⟨name, hname, other, hother, hsame⟩
  · refine Or.inl ?_
    rw [List.Nodup, List.pairwise_map, List.pairwise_iff_getElem] at hset
    simp only [not_forall, not_not] at hset
    obtain ⟨i, j, hi, hj, hij, hsame⟩ := hset
    exact ⟨i, j, hij, hj, hsame⟩

theorem placeholders_of_update {statement : Statement} (h : engine.update request = .ok statement) :
    statement.placeholders engine.setting = request.setNames ++ request.filterNames engine.setting := by
  simp only [Engine.update, bind_eq_ok, pure_eq_ok] at h
  obtain ⟨plan, hplan, rfl⟩ := h
  have hupdates : plan.updates = request.updates := (UpdatePlan.ofFilter_eq_ok_iff.mp hplan).updates
  rw [Statement.placeholders_update_filtered, Engine.placeholders_filterOf, hupdates]
  rfl

end UpdateRequest

namespace Engine
variable {engine : Engine} {request : UpdateRequest}

theorem build_update_eq_ok_iff {sql : String} : (engine.build (.update request)).outcome = .ok sql ↔
    ∃ statement, engine.update request = .ok statement ∧ sql = Statement.render engine.setting [statement] := by
  rw [build_eq_ok_iff]
  constructor
  · rintro ⟨statements, hstatements, rfl⟩
    obtain ⟨statement, hstatement, rfl⟩ := single_eq_ok_iff.mp hstatements
    exact ⟨statement, hstatement, rfl⟩
  · rintro ⟨statement, hstatement, rfl⟩
    exact ⟨_, single_eq_ok_iff.mpr ⟨statement, hstatement, rfl⟩, rfl⟩

theorem exists_build_update_iff : (∃ sql, (engine.build (.update request)).outcome = .ok sql) ↔
    request.PassesRest engine ∧
      ((request.setNames ++ request.filterNames engine.setting).map (placeholderKey engine.setting)).Nodup := by
  rw [← UpdateRequest.exists_update_iff]
  simp only [build_update_eq_ok_iff]
  constructor
  · rintro ⟨_, statement, hstatement, -⟩
    exact ⟨statement, hstatement⟩
  · rintro ⟨statement, hstatement⟩
    exact ⟨_, statement, hstatement, rfl⟩

/-- The parameters of an update that is accepted are those of the fields that are set and those of the
    filter, and no two of them are the same but for case, be it behind the mark or, where the mark is not
    cased, by themselves. An update of which all else is accepted is refused only if two fields that are
    set have the same parameter, or one of them has that of a condition. -/
theorem parameters_of_update (engine : Engine) (request : UpdateRequest) :
    let names := request.setNames ++ request.filterNames engine.setting
    let key := placeholderKey engine.setting
    (∀ sql, (engine.build (.update request)).outcome = .ok sql →
      (∃ statement, sql = Statement.render engine.setting [statement] ∧
        statement.placeholders engine.setting = names) ∧
      (names.map key).Nodup ∧ (isCased engine.setting.parameterMark = false → (names.map lower).Nodup)) ∧
    (request.PassesRest engine → ∀ fault, (engine.build (.update request)).outcome = .error fault →
      (∃ (i j : Nat) (_ : i < j) (_ : j < request.setNames.length),
        key request.setNames[i] = key request.setNames[j]) ∨
      ∃ name ∈ request.setNames, ∃ other ∈ request.filterNames engine.setting, key name = key other) := by
  intro names key
  refine ⟨fun sql hsql => ?_, fun hrest fault hfault => ?_⟩
  · obtain ⟨statement, hstatement, rfl⟩ := build_update_eq_ok_iff.mp hsql
    have hnodup := (exists_build_update_iff.mp ⟨_, hsql⟩).2
    exact ⟨⟨statement, rfl, UpdateRequest.placeholders_of_update hstatement⟩, hnodup,
      fun hmark => nodup_lower_of_uncased hmark hnodup⟩
  · refine UpdateRequest.exists_shared fun hnodup => ?_
    obtain ⟨sql, hsql⟩ := exists_build_update_iff.mpr ⟨hrest, hnodup⟩
    rw [hfault] at hsql
    cases hsql

/-- An update of `Id` where `Id` has a value is accepted, and one of `_Id` is refused. -/
theorem parameters_of_update_underscore :
    let engine : Engine := { dialect := .sqlServer }
    let filter : Predicate :=
      .ofCondition { field := { name := "Id" }, test := .compare .equal (.int 1) }
    let request (name : String) : UpdateRequest :=
      { table := "T", fields := .singleton { name }, columns := {}, filter := some filter }
    (request "Id").filterNames engine.setting = ["_Id"] ∧ (request "_Id").filterNames engine.setting = ["_Id"] ∧
    (∃ sql, (engine.build (.update (request "Id"))).outcome = .ok sql ∧
      (((request "Id").setNames ++ ["_Id"]).map (placeholderKey engine.setting)).Nodup) ∧
    (request "_Id").PassesRest engine ∧
    ∃ fault, (engine.build (.update (request "_Id"))).outcome = .error fault ∧
      ∃ name ∈ (request "_Id").setNames,
        placeholderKey engine.setting name = placeholderKey engine.setting "_Id" := by
  intro engine filter request
  have hbase : parameterBase "Id" = "Id" := by
    with_unfolding_all decide
  have hbase' : parameterBase "_Id" = "_Id" := by
    with_unfolding_all decide
  have hnames : ∀ name, (request name).filterNames engine.setting = ["_Id"] := by
    intro name
    simp [request, filter, UpdateRequest.filterNames, filterBindings, Predicate.bindings_ofCondition, Test.slots,
      hbase, updateLead]
  have hset : ∀ name, parameterBase name = name → (request name).setNames = [name] := by
    intro name hname
    simp [request, UpdateRequest.setNames, UpdateRequest.updates, FieldSet.filter, FieldSet.singleton,
      rowParameters, rowParameter, isAmong, Columns.get?, hname]
  have htable : Check.table "T" = .ok ⟨["T"]⟩ := by
    with_unfolding_all decide
  have hrest : ∀ name, (request name).PassesRest engine := by
    intro name
    have hlength := congrArg List.length (hnames name)
    rw [UpdateRequest.filterNames, List.length_map] at hlength
    refine ⟨⟨_, htable⟩, rfl, rfl, rfl, _, Check.filter_eq_ok_iff.mpr ⟨rfl, ?_⟩⟩
    have hlists : filter.ListsWithin engine.setting.maxListLength := by
      rintro most ⟨⟩
    rintro given ⟨⟩
    refine ⟨hlists, ?_⟩
    rw [hlength]
    show min (1 + 1) Check.maxCount ≤ 2100
    decide
  have hdiffer : ((["Id"] ++ ["_Id"]).map (placeholderKey engine.setting)).Nodup := by
    with_unfolding_all decide
  have hsame : ¬((["_Id"] ++ ["_Id"]).map (placeholderKey engine.setting)).Nodup := by
    with_unfolding_all decide
  obtain ⟨sql, hbuild⟩ := exists_build_update_iff.mpr
    ⟨hrest "Id", by rw [hnames, hset "Id" hbase]; exact hdiffer⟩
  have hrefused : ∃ fault, (engine.build (.update (request "_Id"))).outcome = .error fault := by
    cases houtcome : (engine.build (.update (request "_Id"))).outcome with
    | error fault => exact ⟨fault, rfl⟩
    | ok sql =>
      have hnodup := (exists_build_update_iff.mp ⟨sql, houtcome⟩).2
      rw [hnames, hset "_Id" hbase'] at hnodup
      exact absurd hnodup hsame
  obtain ⟨fault, hfault⟩ := hrefused
  have haccepted := ((parameters_of_update engine (request "Id")).1 sql hbuild).2.1
  rw [hnames] at haccepted
  refine ⟨hnames "Id", hnames "_Id", ⟨_, hbuild, haccepted⟩, hrest "_Id", fault, hfault, ?_⟩
  obtain ⟨i, j, hij, hj, -⟩ | ⟨name, hname, other, hother, hshared⟩ :=
    (parameters_of_update engine (request "_Id")).2 (hrest "_Id") fault hfault
  · have hone := congrArg List.length (hset "_Id" hbase')
    rw [List.length_singleton] at hone
    omega
  · rw [hnames, List.mem_singleton] at hother
    exact ⟨name, hname, hother ▸ hshared⟩

end Engine

end CrudSql

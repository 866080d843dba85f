import CrudSql.Proofs.Write

/-! What a build leaves in the log. Events come from three places: where the qualifiers are found, where an
    insert is written as a merge, and at the end. Each place has at most one event, and the first is left
    also by a build that is refused later. -/

namespace CrudSql

/-- A log has exactly the events that are due, and no more than one. -/
structure Logs (due : Event → Prop) (events : List Event) : Prop where
  mem_iff : ∀ event, event ∈ events ↔ due event
  length_le : events.length ≤ 1

namespace Logs
variable {due due' : Event → Prop} {events : List Event}

theorem none (h : ∀ event, ¬due event) : Logs due [] where
  mem_iff event := iff_of_false List.not_mem_nil (h event)
  length_le := Nat.zero_le 1

theorem one (event : Event) : Logs (· = event) [event] where
  mem_iff _ := List.mem_singleton
  length_le := le_rfl

theorem congr (h : Logs due events) (hdue : ∀ event, due event ↔ due' event) : Logs due' events where
  mem_iff event := (h.mem_iff event).trans (hdue event)
  length_le := h.length_le

end Logs

namespace Trace
variable {α β : Type} {trace : Trace α} {next : α → Trace β}

theorem events_bind_ok {a : α} (h : trace.outcome = .ok a) :
    (trace >>= next).events = trace.events ++ (next a).events := by
  show (trace.andThen next).events = _
  rw [andThen, h]

theorem events_bind_error {fault : Fault} (h : trace.outcome = .error fault) :
    (trace >>= next).events = trace.events := by
  show (trace.andThen next).events = _
  rw [andThen, h]

/-- What goes on without an event leaves the log as it is. -/
theorem events_bind_silent (h : ∀ a, (next a).events = []) : (trace >>= next).events = trace.events := by
  cases hrun : trace.outcome with
  | error fault => exact events_bind_error hrun
  | ok a => rw [events_bind_ok hrun, h, List.append_nil]

/-- After a check that passes, the log is that of what goes on. -/
theorem logs_lift_bind {outcome : Except Fault α} {due : α → Event → Prop}
    (h : ∀ a, outcome = .ok a → Logs (due a) (next a).events) :
    Logs (fun event => ∃ a, outcome = .ok a ∧ due a event) ((liftM outcome : Trace α) >>= next).events := by
  cases outcome with
  | error fault =>
    refine .none ?_
    rintro event ⟨a, ⟨⟩, -⟩
  | ok a => exact (h a rfl).congr fun event => by simp

theorem logs_check {check : Except Fault Unit} {due : Event → Prop} {next : Unit → Trace β}
    (h : check = .ok () → Logs due (next ()).events) :
    Logs (fun event => check = .ok () ∧ due event) ((liftM check : Trace Unit) >>= next).events :=
  (logs_lift_bind fun _ hok => h hok).congr fun _ => exists_unit_eq_ok

theorem silent_lift_bind {outcome : Except Fault α} (h : ∀ a, (next a).events = []) :
    ((liftM outcome : Trace α) >>= next).events = [] :=
  events_bind_silent h

theorem logs_ite {p : Prop} [Decidable p] {due : Event → Prop} {refused : Trace α}
    (hrefused : refused.events = []) (h : ¬p → Logs due trace.events) :
    Logs (fun event => ¬p ∧ due event) (if p then refused else trace).events := by
  split
  · rename_i hp
    rw [hrefused]
    exact .none fun event hdue => hdue.1 hp
  · rename_i hp
    exact (h hp).congr fun event => (and_iff_right hp).symm

end Trace

/-! ### Qualifiers -/

namespace Plan
variable {table : Ident} {write : Write}

/-- The event where rows are matched by the primary key: no qualifiers are given, and the key is non-empty
    and lies within the fields. -/
inductive Defaulted (table : Ident) (write : Write) : Event → Prop
  | intro {primaries : FieldSet} (ungiven : ∀ given ∈ write.qualifiers, given.isEmpty = true)
    (key : write.columns.primaryFields = .ok primaries) (nonempty : primaries.isEmpty = false)
    (within : primaries.isSubset write.fields = true) :
    Defaulted table write (.qualifiersDefaulted table.name primaries.names)

theorem logs_matchFields : Logs (Defaulted table write)
    (matchFields table write.fields write.columns write.qualifiers).events := by
  unfold matchFields
  cases hgiven : write.qualifiers.filter fun set => !set.isEmpty with
  | some given =>
    obtain ⟨hsome, hne⟩ := Option.filter_eq_some_iff.mp hgiven
    have hnone : ∀ event, ¬Defaulted table write event := by
      rintro event ⟨hungiven, -, -, -⟩
      rw [hungiven given hsome] at hne
      cases hne
    dsimp only
    cases given.fields.find? fun field => !write.fields.contains field.name with
    | some missing => exact .none hnone
    | none => exact .none hnone
  | none =>
    have hungiven : ∀ given ∈ write.qualifiers, given.isEmpty = true := by
      intro given h
      simpa using Option.filter_eq_none_iff.mp hgiven given h
    have hdue : ∀ event, (∃ primaries, write.columns.primaryFields = .ok primaries ∧
        ¬primaries.isEmpty = true ∧ primaries.isSubset write.fields = true ∧
          event = Event.qualifiersDefaulted table.name primaries.names) ↔ Defaulted table write event := by
      intro event
      constructor
      · rintro ⟨primaries, hkey, hne, hwithin, rfl⟩
        exact .intro hungiven hkey (Bool.eq_false_iff.mpr hne) hwithin
      · rintro ⟨-, hkey, hne, hwithin⟩
        exact ⟨_, hkey, Bool.eq_false_iff.mp hne, hwithin, rfl⟩
    refine (Trace.logs_lift_bind fun primaries _ => Trace.logs_ite rfl fun _ => ?_).congr hdue
    have hmissing : primaries.isSubset write.fields = true ↔
        primaries.fields.find? (fun field => !write.fields.contains field.name) = none := by
      simp [FieldSet.isSubset]
    rw [hmissing]
    cases primaries.fields.find? fun field => !write.fields.contains field.name with
    | some missing =>
      refine .none ?_
      rintro event ⟨⟨⟩, -⟩
    | none => exact (Logs.one _).congr fun event => (and_iff_right rfl).symm

end Plan

open Plan

/-- The fields of a merge that are not generated. -/
def MergeRequest.source (request : MergeRequest) : FieldSet :=
  request.fields.filter fun field => !request.columns.isGenerated field.name

/-- A merge passes every check before its qualifiers are looked for. -/
structure MergeRequest.Checked (engine : Engine) (request : MergeRequest) (rows : Nat) (table : Ident) :
    Prop where
  table : Check.table request.table = .ok table
  fields : Check.fields request.fields = .ok ()
  rows : Check.rows rows = .ok ()
  hints : Check.hints engine request.hints = .ok ()
  primaries : requiredPrimaries request.fields request.columns = .ok ()
  source : request.source.isEmpty = false

/-- An update row by row passes every check before its qualifiers are looked for. -/
structure UpdateRequest.Checked (engine : Engine) (request : UpdateRequest) (table : Ident) : Prop where
  table : Check.table request.table = .ok table
  fields : Check.fields request.fields = .ok ()
  rows : Check.rows request.rows = .ok ()
  hints : Check.hints engine request.hints = .ok ()

section Plans
variable {engine : Engine}

theorem MergePlan.logs_of {request : MergeRequest} {rows : Nat} :
    Logs (fun event => ∃ table, request.Checked engine rows table ∧
      Defaulted table { request.write with fields := request.source } event)
      (of engine request rows).events := by
  have hdue : ∀ event, (∃ table, Check.table request.table = .ok table ∧
      Check.fields request.fields = .ok () ∧ Check.rows rows = .ok () ∧
      Check.hints engine request.hints = .ok () ∧ requiredPrimaries request.fields request.columns = .ok () ∧
      ¬request.source.isEmpty = true ∧
      Defaulted table { request.write with fields := request.source } event) ↔
      ∃ table, request.Checked engine rows table ∧
        Defaulted table { request.write with fields := request.source } event := by
    intro event
    constructor
    · rintro ⟨table, htable, hfields, hrows, hhints, hprimaries, hsource, hdue⟩
      exact ⟨table, ⟨htable, hfields, hrows, hhints, hprimaries, Bool.eq_false_iff.mpr hsource⟩, hdue⟩
    · rintro ⟨table, ⟨htable, hfields, hrows, hhints, hprimaries, hsource⟩, hdue⟩
      exact ⟨table, htable, hfields, hrows, hhints, hprimaries, Bool.eq_false_iff.mp hsource, hdue⟩
  refine Logs.congr ?_ hdue
  refine Trace.logs_lift_bind fun table _ => ?_
  refine Trace.logs_check fun _ => Trace.logs_check fun _ => ?_
  refine Trace.logs_check fun _ => Trace.logs_check fun _ => ?_
  refine Trace.logs_ite rfl fun _ => ?_
  rw [Trace.events_bind_silent]
  · exact logs_matchFields
  intro qualifiers
  refine Trace.silent_lift_bind fun _ => Trace.silent_lift_bind fun _ => ?_
  rw [Trace.events_bind_silent fun _ => Trace.silent_lift_bind fun _ => rfl]
  cases request.columns.identity? with
  | none => rfl
  | some column => exact Trace.silent_lift_bind fun _ => rfl

theorem UpdatePlan.logs_ofRows {request : UpdateRequest} :
    Logs (fun event => ∃ table, request.Checked engine table ∧ Defaulted table request.write event)
      (ofRows engine request).events := by
  have hdue : ∀ event, (∃ table, Check.table request.table = .ok table ∧
      Check.fields request.fields = .ok () ∧ Check.rows request.rows = .ok () ∧
      Check.hints engine request.hints = .ok () ∧ Defaulted table request.write event) ↔
      ∃ table, request.Checked engine table ∧ Defaulted table request.write event := by
    intro event
    constructor
    · rintro ⟨table, htable, hfields, hrows, hhints, hdue⟩
      exact ⟨table, ⟨htable, hfields, hrows, hhints⟩, hdue⟩
    · rintro ⟨table, ⟨htable, hfields, hrows, hhints⟩, hdue⟩
      exact ⟨table, htable, hfields, hrows, hhints, hdue⟩
  refine Logs.congr ?_ hdue
  refine Trace.logs_lift_bind fun table _ => ?_
  refine Trace.logs_check fun _ => Trace.logs_check fun _ => Trace.logs_check fun _ => ?_
  rw [Trace.events_bind_silent]
  · exact logs_matchFields
  intro qualifiers
  dsimp only
  split
  · rfl
  · exact Trace.silent_lift_bind fun _ => Trace.silent_lift_bind fun _ => rfl

end Plans

/-! ### Inserts by a merge -/

namespace InsertPlan
variable {engine : Engine} {request : InsertRequest} {rows : Nat}

/-- The event where SQL Server writes the rows of an insert by a merge. -/
inductive ByMerge (engine : Engine) (plan : InsertPlan) : Event → Prop
  | intro (dialect : engine.dialect = .sqlServer) (written : plan.columns.isEmpty = false)
    (exceeds : engine.options.mergeInsertThreshold < plan.rows) :
    ByMerge engine plan (.insertAsMerge plan.target.table.name plan.rows engine.options.mergeInsertThreshold)

theorem logs_sqlServer {plan : InsertPlan} (h : engine.dialect = .sqlServer) :
    Logs (ByMerge engine plan) (SqlServer.insert engine.options plan).events := by
  have hmerge : SqlServer.insertsByMerge engine.options plan = true ↔
      plan.columns.isEmpty = false ∧ engine.options.mergeInsertThreshold < plan.rows := by
    simp [SqlServer.insertsByMerge]
  unfold SqlServer.insert
  split
  · rename_i hby
    obtain ⟨hwritten, hexceeds⟩ := hmerge.mp hby
    refine (Logs.one _).congr fun event => ?_
    constructor
    · rintro rfl
      exact .intro h hwritten hexceeds
    · rintro ⟨-, -, -⟩
      rfl
  · rename_i hby
    refine .none ?_
    rintro event ⟨-, hwritten, hexceeds⟩
    exact hby (hmerge.mpr ⟨hwritten, hexceeds⟩)

theorem logs_insert :
    Logs (fun event => ∃ plan, InsertPlan.of engine request rows = .ok plan ∧ ByMerge engine plan event)
      (engine.insert request rows).events := by
  refine Trace.logs_lift_bind fun plan _ => ?_
  cases hd : engine.dialect with
  | sqlServer => exact logs_sqlServer hd
  | postgreSql | mySql =>
    refine .none ?_
    rintro event ⟨hdialect, -, -⟩
    rw [hd] at hdialect
    cases hdialect

end InsertPlan

/-! ### All requests -/

namespace Request

/-- An insert with the number of its rows. -/
inductive Inserts : Request → InsertRequest → Nat → Prop
  | one (request : InsertRequest) : Inserts (insert request) request 1
  | all (request : InsertRequest) : Inserts (insertAll request) request request.rows

/-- A merge with the number of its rows. -/
inductive Merges : Request → MergeRequest → Nat → Prop
  | one (request : MergeRequest) : Merges (merge request) request 1
  | all (request : MergeRequest) : Merges (mergeAll request) request request.rows

theorem Inserts.unique {request : Request} {insert insert' : InsertRequest} {rows rows' : Nat}
    (h : request.Inserts insert rows) (h' : request.Inserts insert' rows') :
    insert = insert' ∧ rows = rows' := by
  cases h <;> cases h' <;> exact ⟨rfl, rfl⟩

theorem Merges.unique {request : Request} {merge merge' : MergeRequest} {rows rows' : Nat}
    (h : request.Merges merge rows) (h' : request.Merges merge' rows') :
    merge = merge' ∧ rows = rows' := by
  cases h <;> cases h' <;> exact ⟨rfl, rfl⟩

end Request

namespace Engine
variable {engine : Engine} {request : Request}

/-- The request is built. -/
def Builds (engine : Engine) (request : Request) : Prop := ∃ sql, (engine.build request).outcome = .ok sql

/-- The requests that look for the fields by which rows are matched, with their table and what they look in:
    of a merge the fields that are not generated. -/
inductive Matches (engine : Engine) : Request → Ident → Write → Prop
  | merge {request : Request} {merge : MergeRequest} {rows : Nat} {table : Ident}
    (merges : request.Merges merge rows) (checked : merge.Checked engine rows table) :
    Matches engine request table { merge.write with fields := merge.source }
  | updateAll {update : UpdateRequest} {table : Ident} (checked : update.Checked engine table) :
    Matches engine (.updateAll update) table update.write

/-- The event of a request whose rows are matched by the primary key. -/
def DefaultsTo (engine : Engine) (request : Request) (event : Event) : Prop :=
  ∃ table write, engine.Matches request table write ∧ Defaulted table write event

/-- The event of an insert into SQL Server that is built and writes a column, of more rows than the
    threshold. -/
inductive InsertsByMerge (engine : Engine) (request : Request) : Event → Prop
  | intro {insert : InsertRequest} {rows : Nat} {table : Ident} (inserts : request.Inserts insert rows)
    (built : engine.Builds request) (dialect : engine.dialect = .sqlServer)
    (named : Check.table insert.table = .ok table)
    (written : (InsertPlan.written engine insert).isEmpty = false)
    (exceeds : engine.options.mergeInsertThreshold < rows) :
    InsertsByMerge engine request (.insertAsMerge table.name rows engine.options.mergeInsertThreshold)

/-- The event of a request that is built, with its text. -/
def Reports (engine : Engine) (request : Request) (event : Event) : Prop :=
  ∃ sql, (engine.build request).outcome = .ok sql ∧ event = .built engine.dialect.name request.verb sql

theorem builds_iff : engine.Builds request ↔
    ∃ statements, (engine.statements request).outcome = .ok statements := by
  constructor
  · rintro ⟨sql, h⟩
    obtain ⟨statements, hstatements, -⟩ := build_eq_ok_iff.mp h
    exact ⟨statements, hstatements⟩
  · rintro ⟨statements, h⟩
    exact ⟨_, build_eq_ok_iff.mpr ⟨statements, h, rfl⟩⟩

theorem statements_of_inserts {insert : InsertRequest} {rows : Nat} (h : request.Inserts insert rows) :
    engine.statements request = engine.insert insert rows := by
  cases h <;> rfl

theorem statements_of_merges {merge : MergeRequest} {rows : Nat} (h : request.Merges merge rows) :
    engine.statements request = engine.merge merge rows := by
  cases h <;> rfl

theorem logs_of_inserts {insert : InsertRequest} {rows : Nat} (h : request.Inserts insert rows) :
    Logs (engine.InsertsByMerge request) (engine.statements request).events := by
  have hplans : engine.Builds request ↔ ∃ plan, InsertPlan.Accepted engine insert rows plan := by
    rw [builds_iff, statements_of_inserts h]
    simp only [insert_eq_ok_iff]
    rw [exists_comm]
    simp
  rw [statements_of_inserts h]
  refine InsertPlan.logs_insert.congr fun event => ?_
  constructor
  · rintro ⟨plan, hplan, hdialect, hwritten, hexceeds⟩
    have haccepted := InsertPlan.of_eq_ok_iff.mp hplan
    rw [haccepted.columns] at hwritten
    rw [haccepted.batch] at hexceeds ⊢
    exact .intro h (hplans.mpr ⟨plan, haccepted⟩) hdialect haccepted.table hwritten hexceeds
  · rintro ⟨hinserts, hbuilt, hdialect, htable, hwritten, hexceeds⟩
    obtain ⟨rfl, rfl⟩ := h.unique hinserts
    obtain ⟨plan, haccepted⟩ := hplans.mp hbuilt
    rw [← haccepted.columns] at hwritten
    rw [haccepted.table] at htable
    cases htable
    refine ⟨plan, InsertPlan.of_eq_ok_iff.mpr haccepted, ?_⟩
    rw [← haccepted.batch] at hexceeds ⊢
    exact .intro hdialect hwritten hexceeds

theorem logs_of_merges {merge : MergeRequest} {rows : Nat} (h : request.Merges merge rows) :
    Logs (engine.DefaultsTo request) (engine.statements request).events := by
  rw [statements_of_merges h]
  show Logs _ (MergePlan.of engine merge rows >>= _).events
  rw [Trace.events_bind_silent fun _ => rfl]
  refine MergePlan.logs_of.congr fun event => ?_
  constructor
  · rintro ⟨table, hchecked, hdefaulted⟩
    exact ⟨table, _, .merge h hchecked, hdefaulted⟩
  · rintro ⟨table, write, hmatches, hdefaulted⟩
    cases hmatches with
    | merge hmerges hchecked =>
      obtain ⟨rfl, rfl⟩ := h.unique hmerges
      exact ⟨table, hchecked, hdefaulted⟩
    | updateAll => cases h

theorem logs_updateAll {update : UpdateRequest} :
    Logs (engine.DefaultsTo (.updateAll update)) (engine.statements (.updateAll update)).events := by
  show Logs _ (UpdatePlan.ofRows engine update >>= _).events
  rw [Trace.events_bind_silent fun _ => rfl]
  refine UpdatePlan.logs_ofRows.congr fun event => ?_
  constructor
  · rintro ⟨table, hchecked, hdefaulted⟩
    exact ⟨table, _, .updateAll hchecked, hdefaulted⟩
  · rintro ⟨table, write, hmatches, hdefaulted⟩
    cases hmatches with
    | merge hmerges => cases hmerges
    | updateAll hchecked => exact ⟨table, hchecked, hdefaulted⟩

/-- The events before the text is built. -/
theorem events_statements (engine : Engine) (request : Request) : ∃ defaulted merged,
    (engine.statements request).events = defaulted ++ merged ∧ Logs (engine.DefaultsTo request) defaulted ∧
      Logs (engine.InsertsByMerge request) merged := by
  have hdefaulted : (∀ table write, ¬engine.Matches request table write) →
      Logs (engine.DefaultsTo request) [] := by
    intro h
    refine .none ?_
    rintro event ⟨table, write, hmatches, -⟩
    exact h table write hmatches
  have hmerged : (∀ insert rows, ¬request.Inserts insert rows) → Logs (engine.InsertsByMerge request) [] := by
    intro h
    refine .none ?_
    rintro event ⟨hinserts, -, -, -, -, -⟩
    exact h _ _ hinserts
  cases request with
  | insert request =>
    refine ⟨[], _, (List.nil_append _).symm, hdefaulted ?_, logs_of_inserts (.one request)⟩
    rintro table write ⟨⟨⟩, -⟩
  | insertAll request =>
    refine ⟨[], _, (List.nil_append _).symm, hdefaulted ?_, logs_of_inserts (.all request)⟩
    rintro table write ⟨⟨⟩, -⟩
  | merge request =>
    refine ⟨_, [], (List.append_nil _).symm, logs_of_merges (.one request), hmerged ?_⟩
    rintro insert rows ⟨⟩
  | mergeAll request =>
    refine ⟨_, [], (List.append_nil _).symm, logs_of_merges (.all request), hmerged ?_⟩
    rintro insert rows ⟨⟩
  | updateAll request =>
    refine ⟨_, [], (List.append_nil _).symm, logs_updateAll, hmerged ?_⟩
    rintro insert rows ⟨⟩
  | _ =>
    refine ⟨[], [], Trace.silent_lift_bind fun _ => rfl, hdefaulted ?_, hmerged ?_⟩
    · rintro table write ⟨⟨⟩, -⟩
    · rintro insert rows ⟨⟩

/-- What is left is the event of a request that is built. -/
theorem events_render (engine : Engine) (request : Request) : ∃ built,
    (engine.build request).events = (engine.statements request).events ++ built ∧
      Logs (engine.Reports request) built := by
  cases hrun : (engine.statements request).outcome with
  | error fault =>
    have hreports : ∀ event, ¬engine.Reports request event := by
      rintro event ⟨sql, hbuild, -⟩
      obtain ⟨statements, hok, -⟩ := build_eq_ok_iff.mp hbuild
      rw [hrun] at hok
      cases hok
    refine ⟨[], ?_, .none hreports⟩
    rw [List.append_nil]
    exact Trace.events_bind_error hrun
  | ok statements =>
    have hbuild : (engine.build request).outcome = .ok (Statement.render engine.setting statements) :=
      build_eq_ok_iff.mpr ⟨statements, hrun, rfl⟩
    refine ⟨[.built engine.dialect.name request.verb (Statement.render engine.setting statements)],
      Trace.events_bind_ok hrun, (Logs.one _).congr fun event => ?_⟩
    simp [Reports, hbuild]

/-- The log of a build has three parts, each of at most one event. The first tells that rows are matched by
    the primary key, also of a build that is refused later; the second that an insert is written by a merge;
    and the last, for debugging, tells what is built and has its text, if it is built. -/
theorem events_of_build (engine : Engine) (request : Request) : ∃ defaulted merged built,
    (engine.build request).events = defaulted ++ merged ++ built ∧
      Logs (engine.DefaultsTo request) defaulted ∧ Logs (engine.InsertsByMerge request) merged ∧
      Logs (engine.Reports request) built ∧ (∀ event ∈ defaulted ++ merged, event.level = "TRACE") ∧
      ∀ event ∈ built, event.level = "DEBUG" := by
  obtain ⟨defaulted, merged, hevents, hdefaulted, hmerged⟩ := engine.events_statements request
  obtain ⟨built, hbuild, hreports⟩ := engine.events_render request
  rw [hevents] at hbuild
  refine ⟨defaulted, merged, built, hbuild, hdefaulted, hmerged, hreports, fun event hmem => ?_,
    fun event hmem => ?_⟩
  · rcases List.mem_append.mp hmem with hmem | hmem
    · obtain ⟨table, write, -, ⟨-, -, -, -⟩⟩ := (hdefaulted.mem_iff event).mp hmem
      rfl
    · obtain ⟨-, -, -, -, -, -⟩ := (hmerged.mem_iff event).mp hmem
      rfl
  · obtain ⟨sql, -, rfl⟩ := (hreports.mem_iff event).mp hmem
    rfl

end Engine

end CrudSql

import CrudSql.Proofs.Build

/-! Requests that write rows, and the columns that their statements name. Every dialect takes them from the
    plan, each in a clause of its own. -/

namespace CrudSql

/-- What is asked for where rows are written: the fields, the columns of the table, the fields by which rows
    are matched and those that keep their value. -/
structure Write where
  fields : FieldSet
  columns : Columns
  qualifiers : Option FieldSet := none
  keep : Option FieldSet := none

/-- An insert asks for fields alone; no rows are matched. -/
def InsertRequest.write (request : InsertRequest) : Write :=
  { fields := request.fields, columns := request.columns }

/-- What an update asks for. -/
def UpdateRequest.write (request : UpdateRequest) : Write :=
  ⟨request.fields, request.columns, request.qualifiers, request.keep⟩

/-- What a merge asks for. -/
def MergeRequest.write (request : MergeRequest) : Write :=
  ⟨request.fields, request.columns, request.qualifiers, request.keep⟩

/-- What is asked for, if rows are written. -/
def Request.write? : Request → Option Write
  | insert request | insertAll request => some request.write
  | update request | updateAll request => some request.write
  | merge request | mergeAll request => some request.write
  | _ => none

namespace Statement

/-- Whether a statement writes values to rows. -/
def IsWrite : Statement → Prop
  | insert _ | merge _ | update .. => True
  | _ => False

end Statement

/-! ### Inserts -/

namespace InsertPlan

/-- The statements for an insert, by the columns that they name. -/
inductive HasStatement (plan : InsertPlan) : Statement → Prop
  | identityInsert (table : Ident) (on : Bool) : HasStatement plan (.identityInsert table on)
  | insert (i : Insert) (hc : i.columns = plan.columns) (hf : i.conflict = .fail) :
    HasStatement plan (.insert i)
  | merge (m : Merge) (hc : m.columns = plan.columns) (hu : m.updates = .empty) : HasStatement plan (.merge m)
  | selectKeys (keys : List KeyColumn) (row : Nat) (numbered : Bool) :
    HasStatement plan (.selectKeys keys row numbered)

end InsertPlan

/-! ### Merges -/

/-- What MySQL assigns: the identity to itself if rows are matched by it, and the updated columns; failing
    both, a qualifier to itself. -/
theorem MySql.assignments_eq (plan : MergePlan) (row : Nat) : ∃ identity : List Assignment,
    (∀ assigned ∈ identity, ∃ field, plan.identity = some field ∧ plan.identityQualifies = true ∧
      assigned = .lastInsertId field) ∧
    assignments plan row =
      let written := identity ++ plan.updates.fields.map fun field => .parameter field row
      if written.isEmpty then (plan.qualifiers.fields.take 1).map .itself else written := by
  refine ⟨_, fun assigned hassigned => ?_, rfl⟩
  split at hassigned
  · rename_i field hfield
    split at hassigned
    · rename_i hqualifies
      exact ⟨field, hfield, hqualifies, List.mem_singleton.mp hassigned⟩
    · cases hassigned
  · cases hassigned

namespace MergePlan

/-- The statements of a dialect for a merge, by the columns that they name. -/
inductive HasStatement (plan : MergePlan) : Dialect → Statement → Prop
  | identityInsert (table : Ident) (on : Bool) : HasStatement plan .sqlServer (.identityInsert table on)
  | merge (m : Merge) (hq : m.qualifiers = some plan.qualifiers) (hc : m.columns = plan.columns)
    (hu : m.updates = plan.updates) : HasStatement plan .sqlServer (.merge m)
  | onConflict (i : Insert) (hc : i.columns = plan.columnsWithIdentity)
    (hf : i.conflict = .onConflict plan.qualifiers plan.updates) : HasStatement plan .postgreSql (.insert i)
  | onDuplicateKey (i : Insert) (row : Nat) (hc : i.columns = plan.columnsWithIdentity)
    (hf : i.conflict = .onDuplicateKey (MySql.assignments plan row)) : HasStatement plan .mySql (.insert i)
  | selectKeys (keys : List KeyColumn) (row : Nat) (numbered : Bool) :
    HasStatement plan .mySql (.selectKeys keys row numbered)

end MergePlan

namespace Engine
variable {engine : Engine} {s : Statement}

theorem SqlServer.mem_withIdentity {table : Ident} {writesIdentity : Bool} {statements : List Statement}
    (h : s ∈ SqlServer.withIdentity table writesIdentity statements) :
    s ∈ statements ∨ ∃ on, s = .identityInsert table on := by
  unfold SqlServer.withIdentity at h
  split at h
  · simp only [List.cons_append, List.nil_append, List.mem_cons, List.mem_append, List.not_mem_nil,
      or_false] at h
    rcases h with h | h | h
    · exact Or.inr ⟨true, h⟩
    · exact Or.inl h
    · exact Or.inr ⟨false, h⟩
  · exact Or.inl h

theorem SqlServer.mem_withIdentity_of_mem {table : Ident} {writesIdentity : Bool} {statements : List Statement}
    (h : s ∈ statements) : s ∈ SqlServer.withIdentity table writesIdentity statements := by
  unfold SqlServer.withIdentity
  split
  · exact List.mem_append_left _ (List.mem_append_right _ h)
  · exact h

theorem hasStatement_insertStatements {plan : InsertPlan} (h : s ∈ engine.insertStatements plan) :
    plan.HasStatement s := by
  unfold insertStatements at h
  cases hd : engine.dialect with
  | sqlServer =>
    rw [hd] at h
    rcases SqlServer.mem_withIdentity h with h | ⟨on, rfl⟩
    · unfold SqlServer.insertStatements at h
      split at h
      · cases (List.mem_replicate.mp h).2
        exact .insert _ rfl rfl
      · split at h
        · cases List.mem_singleton.mp h
          exact .merge _ rfl rfl
        · cases List.mem_singleton.mp h
          exact .insert _ rfl rfl
    · exact .identityInsert _ on
  | postgreSql =>
    rw [hd] at h
    obtain ⟨row, -, rfl⟩ := List.mem_map.mp h
    exact .insert _ rfl rfl
  | mySql =>
    rw [hd] at h
    obtain ⟨row, -, h⟩ := List.mem_flatMap.mp h
    rcases List.mem_pair.mp h with rfl | rfl
    · exact .insert _ rfl rfl
    · exact .selectKeys _ row _

theorem hasStatement_mergeStatements {plan : MergePlan} (h : s ∈ engine.mergeStatements plan) :
    plan.HasStatement engine.dialect s := by
  unfold mergeStatements at h
  cases hd : engine.dialect with
  | sqlServer =>
    rw [hd] at h
    rcases SqlServer.mem_withIdentity h with h | ⟨on, rfl⟩
    · cases List.mem_singleton.mp h
      exact .merge _ rfl rfl rfl
    · exact .identityInsert _ on
  | postgreSql =>
    rw [hd] at h
    obtain ⟨row, -, rfl⟩ := List.mem_map.mp h
    exact .onConflict _ rfl rfl
  | mySql =>
    rw [hd] at h
    obtain ⟨row, -, h⟩ := List.mem_flatMap.mp h
    rcases List.mem_pair.mp h with rfl | rfl
    · exact .onDuplicateKey _ row rfl rfl
    · exact .selectKeys _ row _

/-- A merge of at least one row has a statement that writes. -/
theorem exists_isWrite_mergeStatements {plan : MergePlan} (h : plan.rows ≠ 0) :
    ∃ s ∈ engine.mergeStatements plan, s.IsWrite := by
  have hrow : 0 ∈ List.range plan.rows := List.mem_range.mpr (Nat.pos_of_ne_zero h)
  unfold mergeStatements
  cases engine.dialect with
  | sqlServer => exact ⟨_, SqlServer.mem_withIdentity_of_mem List.mem_cons_self, trivial⟩
  | postgreSql => exact ⟨_, List.mem_map_of_mem hrow, trivial⟩
  | mySql => exact ⟨_, List.mem_flatMap.mpr ⟨0, hrow, List.mem_cons_self⟩, trivial⟩

end Engine

end CrudSql

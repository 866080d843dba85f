import CrudSql.Proofs.Batch
import CrudSql.Proofs.Ident
import CrudSql.Proofs.MySql
import CrudSql.Proofs.Render
import CrudSql.Proofs.Statement.Texts
import CrudSql.Proofs.Written

/-! Values for identity columns, which a server takes only where they are announced: by two statements
    around a script of SQL Server, or by a phrase in each insert of PostgreSQL. The announcement is there
    exactly where the columns of a new row have an identity among them. -/

namespace CrudSql
open Sql

/-! ### Tables -/

theorem Check.table_parts_ne_nil {text : String} {table : Ident} (h : Check.table text = .ok table) :
    table.parts ≠ [] := by
  unfold Check.table at h
  split at h
  · cases h
  · exact (Ident.isProper_of_parse h).parts_ne_nil

/-- The text that names the table. -/
def Request.table : Request → String
  | query request => request.table
  | batchQuery request _ _ | skipQuery request _ _ => request.table
  | count request | anyRow request | aggregate _ _ request | delete request => request.table
  | countAll table _ | aggregateAll _ _ table _ | deleteAll table _ | truncate table => table
  | insert request | insertAll request => request.table
  | update request | updateAll request => request.table
  | merge request | mergeAll request => request.table

/-! ### New rows -/

/-- An identity column of the table is among the columns. -/
def Columns.IdentityIn (table : Columns) (fields : List Field) : Prop :=
  ∃ field ∈ fields, ∃ name ∈ table.namesOf (·.isIdentity), sameName name field.name = true

theorem Columns.Distinct.any_isIdentity_iff {table : Columns} (h : table.Distinct) {fields : List Field} :
    (fields.any fun field => table.isIdentity field.name) = true ↔ table.IdentityIn fields := by
  rw [List.any_eq_true]
  exact exists_congr fun field => and_congr_right fun _ => h.any_get?_iff

namespace Statement
variable {setting : Setting} {s : Statement} {fields : List Field}

/-- A new row gets a value for an identity column of the table. -/
def InsertsIdentity (columns : Columns) (s : Statement) : Prop := columns.IdentityIn s.inserted

/-- A statement that only writes rows, with values for the given columns where a row is new. -/
inductive IsRowsOf (fields : List Field) : Statement → Prop
  | insert (i : Insert) (hh : i.target.hints = none) (hc : i.columns.fields = fields) :
    IsRowsOf fields (.insert i)
  | merge (m : Merge) (hh : m.target.hints = none) (hc : m.columns.fields = fields) :
    IsRowsOf fields (.merge m)

namespace IsRowsOf

theorem isWritten (h : s.IsRowsOf fields) : s.IsWritten := by
  cases h <;> trivial

theorem proper (h : s.IsRowsOf fields) : s.Proper := by
  cases h with
  | insert i hh => exact hh
  | merge m hh => exact hh

theorem inserted (h : s.IsRowsOf fields) : s.inserted = fields := by
  cases h with
  | insert i _ hc => exact hc
  | merge m _ hc => exact hc

theorem not_says_switch (h : s.IsRowsOf fields) : ¬(s.sql setting).Says "BEGIN TRY SET IDENTITY_INSERT" := by
  have hother : "BEGIN TRY SET IDENTITY_INSERT" ∉ writingTexts := by
    decide
  cases h with
  | insert i hh =>
    rw [Statement.sql, Insert.says_sql hh hother]
    simp
  | merge m hh => exact Merge.not_says_sql hh hother

end IsRowsOf

theorem properScript_of_isRowsOf {statements : List Statement} (hne : statements ≠ [])
    (h : ∀ s ∈ statements, s.IsRowsOf fields) : ProperScript statements where
  proper s hs := (h s hs).proper
  written := by
    obtain ⟨s, hs⟩ := List.exists_mem_of_ne_nil _ hne
    exact ⟨s, hs, (h s hs).isWritten⟩

end Statement

/-! ### Keywords -/

/-- The keywords of the announcements stand in no other fixed texts. -/
theorem eq_of_keyword_mem_phrase : ∀ text ∈ phrases,
    (.word "IDENTITY_INSERT" ∈ phrase text → text = "BEGIN TRY SET IDENTITY_INSERT") ∧
      (.word "OVERRIDING" ∈ phrase text → text = "OVERRIDING SYSTEM VALUE") := by
  decide +kernel

theorem identityInsert_mem_tokens_iff {sql : Sql} (hs : sql.Sound) :
    .word "IDENTITY_INSERT" ∈ sql.tokens ↔ sql.Says "BEGIN TRY SET IDENTITY_INSERT" :=
  hs.word_mem_tokens_iff (by decide) (by decide +kernel) fun text htext =>
    (eq_of_keyword_mem_phrase text htext).1

/-- The phrase that overrides the server's numbers. -/
def overridePhrase : List Token := [.word "OVERRIDING", .word "SYSTEM", .word "VALUE"]

theorem overridePhrase_infix_iff {sql : Sql} (hs : sql.Sound) :
    overridePhrase <:+: sql.tokens ↔ sql.Says "OVERRIDING SYSTEM VALUE" := by
  have hphrase : phrase "OVERRIDING SYSTEM VALUE" = overridePhrase := by
    decide +kernel
  have hword : .word "OVERRIDING" ∈ overridePhrase := List.mem_cons_self
  constructor
  · intro h
    refine (hs.word_mem_tokens_iff (by decide) (hphrase ▸ hword) fun text htext => ?_).mp (h.subset hword)
    exact (eq_of_keyword_mem_phrase text htext).2
  · intro h
    rw [← hphrase]
    exact h.infix

/-! ### SQL Server -/

namespace SqlServer
variable {setting : Setting} {columns : Columns} {table : Ident} {fields : List Field}
  {statements : List Statement}

/-- The text that lets the identity column of a table be written, or not any more. -/
def identitySwitch (setting : Setting) (table : Ident) (on : Bool) : String :=
  "BEGIN TRY SET IDENTITY_INSERT " ++ table.quoted setting ++ (if on then " ON; " else " OFF; ") ++
    "END TRY BEGIN CATCH END CATCH;"

theorem render_wordsAroundPath (hm : setting.marks.IsReadable) (ht : table.parts ≠ [])
    {first second third : String} (hfirst : Piece.gap first.toList.reverse = [' '])
    (hsecond : second.toList ≠ []) (hthird : third.toList ≠ []) :
    render setting (word first ++ path table ++ word second ++ stop ++ word third ++ stop) =
      first ++ " " ++ table.quoted setting ++ (" " ++ second ++ "; ") ++ (third ++ ";") := by
  have hgap := gap_quotedChars hm ht
  have hpath := Piece.ne_nil_of_gap hgap
  have hopen := Piece.ne_nil_of_gap hfirst
  have hstop : ∀ text, onto setting text stop = ';' :: text := fun _ => rfl
  have hsemicolon : ∀ text, Piece.gap (';' :: text) = [' '] := fun _ => rfl
  have hnil : Piece.gap [] = [] := rfl
  rw [ne_eq, List.reverse_eq_nil_iff] at hpath hopen
  apply String.toList_injective
  simp [render, chars, onto_append, onto_word hopen, onto_word hsecond, onto_word hthird, onto_path hpath,
    hstop, Piece.gap_append, hpath, hgap, hsemicolon, hnil, hfirst, Ident.quoted]

theorem render_identityInsert (hm : setting.marks.IsReadable) (ht : table.parts ≠ []) (on : Bool) :
    Statement.render setting [.identityInsert table on] = identitySwitch setting table on := by
  have hsecond : (if on then "ON" else "OFF").toList ≠ [] := by
    cases on <;> decide
  have hswitch : identitySwitch setting table on = "BEGIN TRY SET IDENTITY_INSERT" ++ " " ++
      table.quoted setting ++ (" " ++ (if on then "ON" else "OFF") ++ "; ") ++
      ("END TRY BEGIN CATCH END CATCH" ++ ";") := by
    cases on <;> rfl
  rw [hswitch, Statement.render, List.flatMap_singleton]
  exact render_wordsAroundPath hm ht (by decide) hsecond (by decide)

theorem endsFree_identitySwitch (setting : Setting) (table : Ident) (on : Bool) :
    EndsFree (identitySwitch setting table on).toList := by
  obtain ⟨front, hfront⟩ : ∃ front,
      identitySwitch setting table on = front ++ "END TRY BEGIN CATCH END CATCH;" := ⟨_, rfl⟩
  have hlast : "END TRY BEGIN CATCH END CATCH;".toList.getLast? = some ';' := by
    decide
  intro c hc
  rw [hfront, String.toList_append, List.getLast?_append, hlast] at hc
  cases hc
  rfl

/-- A text that starts with the switch has the keyword. -/
theorem identityInsert_mem_of_switch (hm : setting.marks.IsReadable) (ht : table.parts ≠ []) {on : Bool}
    {rest : String} {tokens : List Token}
    (h : setting.marks.read (identitySwitch setting table on ++ rest).toList = some tokens) :
    .word "IDENTITY_INSERT" ∈ tokens := by
  have hscript : ProperScript [.identityInsert table on] := .single trivial trivial
  have hread := hscript.read_tokens hm
  rw [render_identityInsert hm ht] at hread
  rw [String.toList_append, Marks.read_append hm hread (Or.inl (endsFree_identitySwitch setting table on))] at h
  obtain ⟨others, -, rfl⟩ := Option.map_eq_some_iff.mp h
  refine List.mem_append_left _ ((identityInsert_mem_tokens_iff (hscript.sound setting)).mpr ?_)
  simp [Statement.sql]

/-- A script is between two statements that switch the identity column of the table on and off exactly if a
    new row gets a value for it, and only then has the keyword of the switch. -/
structure AnnouncesIdentity (setting : Setting) (columns : Columns) (table : Ident)
    (statements : List Statement) (sql : String) : Prop where
  wrapped : (∃ written, sql = identitySwitch setting table true ++ " " ++ written ++ " " ++
      identitySwitch setting table false) ↔ ∃ s ∈ statements, s.InsertsIdentity columns
  keyword : ∃ tokens, setting.marks.read sql.toList = some tokens ∧
    (.word "IDENTITY_INSERT" ∈ tokens ↔ ∃ s ∈ statements, s.InsertsIdentity columns)

theorem says_withIdentity (h : ∀ s ∈ statements, s.IsRowsOf fields) (writesIdentity : Bool) :
    Says ((withIdentity table writesIdentity statements).flatMap (·.sql setting))
      "BEGIN TRY SET IDENTITY_INSERT" ↔ writesIdentity = true := by
  rw [says_flatMap]
  constructor
  · rintro ⟨s, hs, hsays⟩
    by_contra hnot
    rw [withIdentity, if_neg hnot] at hs
    exact (h s hs).not_says_switch hsays
  · intro hflag
    refine ⟨.identityInsert table true, ?_, ?_⟩
    · simp [withIdentity, hflag]
    · simp [Statement.sql]

theorem insertsIdentity_withIdentity (hne : statements ≠ []) (h : ∀ s ∈ statements, s.IsRowsOf fields)
    {writesIdentity : Bool} :
    (∃ s ∈ withIdentity table writesIdentity statements, s.InsertsIdentity columns) ↔
      columns.IdentityIn fields := by
  constructor
  · rintro ⟨s, hs, hidentity⟩
    rcases Engine.SqlServer.mem_withIdentity hs with hs | ⟨on, rfl⟩
    · rwa [Statement.InsertsIdentity, (h s hs).inserted] at hidentity
    · obtain ⟨field, hfield, -⟩ := hidentity
      cases hfield
  · intro hidentity
    obtain ⟨s, hs⟩ := List.exists_mem_of_ne_nil _ hne
    refine ⟨s, Engine.SqlServer.mem_withIdentity_of_mem hs, ?_⟩
    rwa [Statement.InsertsIdentity, (h s hs).inserted]

theorem render_withIdentity (hm : setting.marks.IsReadable) (ht : table.parts ≠ []) (hne : statements ≠ [])
    (h : ∀ s ∈ statements, s.IsRowsOf fields) :
    Statement.render setting (withIdentity table true statements) =
      identitySwitch setting table true ++ " " ++ Statement.render setting statements ++ " " ++
        identitySwitch setting table false := by
  have hwritten : ∀ s ∈ statements, s.IsWritten := fun s hs => (h s hs).isWritten
  have hswitch : ∀ on, ∀ s ∈ [Statement.identityInsert table on], s.IsWritten := fun on s hs => by
    cases List.mem_singleton.mp hs
    trivial
  have hfront := List.forall_mem_append.mpr ⟨hswitch true, hwritten⟩
  rw [withIdentity, if_pos rfl, Statement.render_append (by simp) (by simp) hfront (hswitch false),
    Statement.render_append (by simp) hne (hswitch true) hwritten, render_identityInsert hm ht,
    render_identityInsert hm ht]

theorem announcesIdentity (hm : setting.marks.IsReadable) (ht : table.parts ≠ []) (hne : statements ≠ [])
    (h : ∀ s ∈ statements, s.IsRowsOf fields) {writesIdentity : Bool}
    (hw : writesIdentity = true ↔ columns.IdentityIn fields) :
    AnnouncesIdentity setting columns table (withIdentity table writesIdentity statements)
      (Statement.render setting (withIdentity table writesIdentity statements)) := by
  have hproper : ProperScript (withIdentity table writesIdentity statements) :=
    Engine.proper_withIdentity (Statement.properScript_of_isRowsOf hne h)
  have hread := hproper.read_tokens hm
  have hkeyword := identityInsert_mem_tokens_iff (hproper.sound setting)
  rw [says_withIdentity h, hw] at hkeyword
  refine ⟨?_, _, hread, hkeyword.trans (insertsIdentity_withIdentity hne h).symm⟩
  rw [insertsIdentity_withIdentity hne h]
  constructor
  · rintro ⟨written, hsql⟩
    rw [hsql, String.append_assoc, String.append_assoc, String.append_assoc] at hread
    exact hkeyword.mp (identityInsert_mem_of_switch hm ht hread)
  · intro hidentity
    rw [hw.mpr hidentity]
    exact ⟨_, render_withIdentity hm ht hne h⟩

end SqlServer

/-! ### PostgreSQL -/

namespace PostgreSql
variable {setting : Setting} {columns : Columns} {rows : Nat}

/-- The statements of a script are one for each row. One has the phrase that overrides the server's numbers
    exactly if its row gets a value for an identity column of the table. -/
structure AnnouncesIdentity (setting : Setting) (columns : Columns) (rows : Nat) (statements : List Statement)
    (sql : String) : Prop where
  rows : statements.length = rows
  text : sql = " ".intercalate (statements.map fun s => Statement.render setting [s])
  override : ∀ s ∈ statements, ∃ tokens,
    setting.marks.read (Statement.render setting [s]).toList = some tokens ∧
      (overridePhrase <:+: tokens ↔ s.InsertsIdentity columns)

theorem announcesIdentity (hm : setting.marks.IsReadable) {f : Nat → Statement}
    (hf : ∀ row, ∃ i : Insert, f row = .insert i ∧ i.target.hints = none ∧
      (i.overriding = true ↔ columns.IdentityIn i.columns.fields)) :
    AnnouncesIdentity setting columns rows ((List.range rows).map f)
      (Statement.render setting ((List.range rows).map f)) where
  rows := by rw [List.length_map, List.length_range]
  text := by
    refine Statement.render_eq_intercalate fun s hs => ?_
    obtain ⟨row, -, rfl⟩ := List.mem_map.mp hs
    obtain ⟨i, hi, -⟩ := hf row
    rw [hi]
    trivial
  override s hs := by
    obtain ⟨row, -, rfl⟩ := List.mem_map.mp hs
    obtain ⟨i, hi, hh, hoverriding⟩ := hf row
    have hsound := (Insert.script_sql hh).sound
    have hsays := i.says_sql hh (by decide : "OVERRIDING SYSTEM VALUE" ∉ writingTexts)
    rw [and_iff_left rfl] at hsays
    rw [hi, Statement.render, List.flatMap_singleton, Statement.sql]
    refine ⟨_, hsound.read_render hm, ?_⟩
    exact ((overridePhrase_infix_iff hsound).trans hsays).trans hoverriding

end PostgreSql

/-! ### Plans -/

section Plans
variable {engine : Engine} {rows : Nat}

theorem InsertPlan.Accepted.writesIdentity_iff {request : InsertRequest} {plan : InsertPlan}
    (h : InsertPlan.Accepted engine request rows plan) (hd : request.columns.Distinct) :
    plan.writesIdentity = true ↔ request.columns.IdentityIn plan.columns.fields := by
  rw [h.writesIdentity]
  exact hd.any_isIdentity_iff

namespace MergePlan.Accepted
variable {request : MergeRequest} {plan : MergePlan}

theorem writesIdentity_iff (h : MergePlan.Accepted engine request rows plan) (hd : request.columns.Distinct) :
    plan.writesIdentity = true ↔ request.columns.IdentityIn plan.columns.fields := by
  rw [h.writesIdentity]
  exact hd.any_isIdentity_iff

/-- Where a table has no second identity column, the identity of the plan is the one that may be written. -/
theorem contains_identity_iff (h : MergePlan.Accepted engine request rows plan) (hp : request.write.IsPlain)
    (hi : (request.columns.namesOf (·.isIdentity)).length ≤ 1) {set : FieldSet} :
    (plan.identity.any fun identity => set.contains identity.name) = true ↔
      request.columns.IdentityIn set.fields := by
  rcases h.identity_cases hp with ⟨hnone, hidentity⟩ | ⟨column, field, hcolumn, hidentity, hname, hplain⟩
  · rw [hidentity]
    constructor
    · rintro ⟨⟩
    · rintro ⟨field, -, name, hmem, -⟩
      obtain ⟨column, hcolumn, hrole, -⟩ := Columns.mem_namesOf.mp hmem
      exact absurd hrole (List.find?_eq_none.mp hnone column hcolumn)
  · have hmem : column.name ∈ request.columns.namesOf (·.isIdentity) :=
      Columns.mem_namesOf.mpr ⟨column, List.mem_of_find?_eq_some hcolumn, List.find?_some hcolumn, rfl⟩
    obtain ⟨only, honly⟩ := List.length_eq_one_iff.mp (Nat.le_antisymm hi (List.length_pos_of_mem hmem))
    have hall : ∀ name ∈ request.columns.namesOf (·.isIdentity), name = field.name := by
      rw [honly] at hmem ⊢
      rw [hname, List.mem_singleton.mp hmem]
      exact fun name => List.mem_singleton.mp
    rw [hidentity, Option.any_some, FieldSet.contains_iff]
    refine exists_congr fun other => and_congr_right fun _ => ?_
    rw [Field.hasName_of_plain hplain, sameName_comm]
    constructor
    · exact fun hsame => ⟨column.name, hmem, hname ▸ hsame⟩
    · rintro ⟨name, hother, hsame⟩
      rwa [hall name hother] at hsame

end MergePlan.Accepted

end Plans

/-! ### Statements -/

namespace Engine
variable {engine : Engine} {request : Request} {write : Write} {rows : Nat} {columns : Columns}

/-- The statements for rows announce values for identity columns where they have some, as far as the dialect
    asks for that. -/
structure AnnouncesIdentity (engine : Engine) (columns : Columns) (table : String) (rows : Nat)
    (statements : List Statement) (sql : String) : Prop where
  sqlServer : engine.dialect = .sqlServer → ∃ ident, Check.table table = .ok ident ∧
    SqlServer.AnnouncesIdentity engine.setting columns ident statements sql
  postgreSql : engine.dialect = .postgreSql →
    PostgreSql.AnnouncesIdentity engine.setting columns rows statements sql

theorem isRowsOf_insertStatements {options : Options} {plan : InsertPlan} (hh : plan.target.hints = none) :
    ∀ s ∈ SqlServer.insertStatements options plan, s.IsRowsOf plan.columns.fields := by
  intro s hs
  unfold SqlServer.insertStatements at hs
  split at hs
  · cases (List.mem_replicate.mp hs).2
    exact .insert _ hh rfl
  · split at hs
    · cases List.mem_singleton.mp hs
      exact .merge _ hh rfl
    · cases List.mem_singleton.mp hs
      exact .insert _ hh rfl

theorem insertStatements_ne_nil {options : Options} {plan : InsertPlan} (hr : plan.rows ≠ 0) :
    SqlServer.insertStatements options plan ≠ [] := by
  unfold SqlServer.insertStatements
  split
  · rwa [ne_eq, List.replicate_eq_nil_iff]
  · split <;> exact List.cons_ne_nil _ _

theorem announcesIdentity_insert (hm : engine.setting.marks.IsReadable) {request : InsertRequest}
    (hh : request.hints = none) (hp : request.write.IsPlain) {plan : InsertPlan}
    (h : InsertPlan.Accepted engine request rows plan) :
    engine.AnnouncesIdentity request.columns request.table rows (engine.insertStatements plan)
      (Statement.render engine.setting (engine.insertStatements plan)) := by
  have hwrites := h.writesIdentity_iff hp.distinct
  have hhints := h.hints.trans hh
  have hrows : plan.rows ≠ 0 := h.batch ▸ Check.rows_eq_ok_iff.mp h.hasRows
  constructor
  · intro hd
    refine ⟨plan.target.table, h.table, ?_⟩
    rw [insertStatements, hd]
    exact SqlServer.announcesIdentity hm (Check.table_parts_ne_nil h.table) (insertStatements_ne_nil hrows)
      (isRowsOf_insertStatements hhints) hwrites
  · intro hd
    rw [insertStatements, hd, ← h.batch]
    refine PostgreSql.announcesIdentity hm fun row => ⟨_, rfl, rfl, ?_⟩
    -- The identity is among the columns, so there are some.
    rw [← hwrites, Bool.and_eq_true, and_iff_left_iff_imp]
    intro hidentity
    obtain ⟨field, hfield, -⟩ := hwrites.mp hidentity
    rw [Bool.not_eq_true']
    exact List.isEmpty_eq_false_iff.mpr (List.ne_nil_of_mem hfield)

theorem announcesIdentity_merge (hm : engine.setting.marks.IsReadable) {request : MergeRequest}
    (hh : request.hints = none) (hp : request.write.IsPlain)
    (hi : (request.columns.namesOf (·.isIdentity)).length ≤ 1) {plan : MergePlan}
    (h : MergePlan.Accepted engine request rows plan) :
    engine.AnnouncesIdentity request.columns request.table rows (engine.mergeStatements plan)
      (Statement.render engine.setting (engine.mergeStatements plan)) := by
  have hhints := h.hints.trans hh
  constructor
  · intro hd
    refine ⟨plan.target.table, h.table, ?_⟩
    rw [mergeStatements, hd]
    refine SqlServer.announcesIdentity hm (Check.table_parts_ne_nil h.table) (List.cons_ne_nil _ _) ?_
      (h.writesIdentity_iff hp.distinct)
    intro s hs
    cases List.mem_singleton.mp hs
    exact .merge _ hhints rfl
  · intro hd
    rw [mergeStatements, hd, ← h.batch]
    exact PostgreSql.announcesIdentity hm fun row => ⟨_, rfl, rfl, h.contains_identity_iff hp hi⟩

/-- Values for an identity column are announced, and nothing else is. Where rows are inserted or merged
    without hints, with plain names and no second identity column, SQL Server gets the script between two
    statements that switch the identity column of its table on and off exactly if a new row gets a value for
    it, and otherwise never the keyword of that switch; PostgreSQL gets a statement for each row, with the
    phrase that overrides the server's numbers exactly if this row has a value for the identity column. Names
    between quotes and parameters are other tokens than keywords, whatever they are called. -/
theorem announcesIdentity_of_build (hm : engine.setting.marks.IsReadable) (hr : request.ReportsKeys)
    (hh : request.hints = none) (hw : request.write? = some write) (hp : write.IsPlain)
    (hi : (write.columns.namesOf (·.isIdentity)).length ≤ 1) {sql : String}
    (h : (engine.build request).outcome = .ok sql) :
    ∃ statements, (engine.statements request).outcome = .ok statements ∧
      sql = Statement.render engine.setting statements ∧
      engine.AnnouncesIdentity write.columns request.table request.batchRows statements sql := by
  obtain ⟨statements, hstatements, rfl⟩ := build_eq_ok_iff.mp h
  refine ⟨statements, hstatements, rfl, ?_⟩
  cases request with
  | insert request | insertAll request =>
    cases hw
    obtain ⟨plan, hplan, rfl⟩ := insert_eq_ok_iff.mp hstatements
    exact announcesIdentity_insert hm hh hp hplan
  | merge request | mergeAll request =>
    cases hw
    obtain ⟨plan, hplan, rfl⟩ := merge_eq_ok_iff.mp hstatements
    exact announcesIdentity_merge hm hh hp hi hplan
  | _ => cases hr

set_option maxRecDepth 2048 in
/-- An insert with a value for the identity column. -/
theorem announcesIdentity_of_build_chosen :
    let engine : Engine := { dialect := .sqlServer, options := { identityInsert := true } }
    let fields : FieldSet := ⟨[{ name := "Id" }, { name := "Name" }], of_decide_eq_true rfl⟩
    let columns : Columns := ⟨[{ name := "Id", isPrimary := true, isIdentity := true }]⟩
    let insert : InsertRequest := { table := "dbo.T", fields, columns }
    let sql := "BEGIN TRY SET IDENTITY_INSERT [dbo].[T] ON; END TRY BEGIN CATCH END CATCH; " ++
      "INSERT INTO [dbo].[T] ([Id], [Name]) OUTPUT INSERTED.[Id] VALUES (@Id, @Name); " ++
      "BEGIN TRY SET IDENTITY_INSERT [dbo].[T] OFF; END TRY BEGIN CATCH END CATCH;"
    engine.setting.marks.IsReadable ∧ (Request.insert insert).ReportsKeys ∧ insert.hints = none ∧
      (Request.insert insert).write? = some insert.write ∧ insert.write.IsPlain ∧
      (columns.namesOf (·.isIdentity)).length ≤ 1 ∧ (engine.build (.insert insert)).outcome = .ok sql ∧
      ∃ statements, (engine.statements (.insert insert)).outcome = .ok statements ∧
        sql = Statement.render engine.setting statements ∧
        engine.AnnouncesIdentity columns "dbo.T" 1 statements sql := by
  intro engine fields columns insert sql
  have hm : engine.setting.marks.IsReadable := Marks.IsStandard.isReadable ⟨by decide, rfl⟩
  have hr : (Request.insert insert).ReportsKeys := trivial
  have hp : insert.write.IsPlain := by
    decide
  have hi : (columns.namesOf (·.isIdentity)).length ≤ 1 := Nat.le_refl 1
  have hplan : InsertPlan.Accepted engine insert 1 {
      target := ⟨⟨["dbo", "T"]⟩, none⟩
      columns := fields
      keys := [⟨{ name := "Id" }, .supplied⟩]
      rows := 1
      writesIdentity := true } := by
    with_unfolding_all decide
  have hstatements : (engine.statements (.insert insert)).outcome = .ok _ :=
    insert_eq_ok_iff.mpr ⟨_, hplan, rfl⟩
  have hbuild : (engine.build (.insert insert)).outcome = .ok sql :=
    build_eq_ok_iff.mpr ⟨_, hstatements, by with_unfolding_all decide⟩
  exact ⟨hm, hr, rfl, rfl, hp, hi, hbuild, announcesIdentity_of_build hm hr rfl rfl hp hi hbuild⟩

end Engine

end CrudSql

import CrudSql.Document.Columns
import CrudSql.Proofs.Json

/-! Columns that are written in a document and read from it again. All is kept, but key columns are never
    nullable in what is read. -/

namespace CrudSql

theorem mapM_eq_some_map {α β : Type} {f : α → Option β} {g : α → β} {items : List α}
    (h : ∀ item ∈ items, f item = some (g item)) : items.mapM f = some (items.map g) := by
  induction items with
  | nil => rfl
  | cons item items ih =>
    obtain ⟨hitem, hitems⟩ := List.forall_mem_cons.mp h
    rw [List.mapM_cons, hitem, ih hitems]
    rfl

theorem filter_key_eq {α : Type} {item : String × α} {items : List (String × α)}
    (h : (items.map (·.1)).Nodup) (hitem : item ∈ items) : items.filter (·.1 == item.1) = [item] := by
  obtain ⟨before, after, rfl⟩ := List.append_of_mem hitem
  have hnodup : ∀ other ∈ before ++ after, other.1 ≠ item.1 := by
    have hmiddle : (item.1 :: (before ++ after).map (·.1)).Nodup := by
      have hperm : (before ++ item :: after).Perm (item :: (before ++ after)) := List.perm_middle
      exact (hperm.map (·.1)).nodup_iff.mp h
    intro other hother hsame
    exact (List.nodup_cons.mp hmiddle).1 (hsame ▸ List.mem_map_of_mem hother)
  have hnone : ∀ others ⊆ before ++ after, others.filter (·.1 == item.1) = [] := fun others hsub =>
    List.filter_eq_nil_iff.mpr fun other hother hsame => hnodup other (hsub hother) (beq_iff_eq.mp hsame)
  rw [List.filter_append, List.filter_cons_of_pos (by simp), hnone _ (List.subset_append_left ..),
    hnone _ (List.subset_append_right ..)]
  rfl

/-! ### Documents of JSON values -/

namespace Document
variable {format : DocumentFormat} {isClosed : Bool} {members : List (String × Document)}

@[simp] theorem ofJsonItems_eq (items : List Json) : ofJsonItems items = items.map ofJson := by
  induction items with
  | nil => rfl
  | cons item items ih => rw [ofJsonItems, ih, List.map_cons]

@[simp] theorem ofJsonMembers_eq (members : List (String × Json)) :
    ofJsonMembers members = members.map fun member => (member.1, ofJson member.2) := by
  induction members with
  | nil => rfl
  | cons member members ih => rw [ofJsonMembers, ih, List.map_cons]

theorem nat?_ofNat {bits n : Nat} (hbits : n < Nat.pow 2 bits) (hmax : n ≤ NumberLiteral.maxSignificand) :
    nat? bits (ofJson (.ofNat n)) = some n := by
  have hrange : (0 : Int) ≤ n ∧ (n : Int) < Nat.pow 2 bits := ⟨by omega, by omega⟩
  rw [Json.ofNat, ofJson, NumberLiteral.int?_ofNat hmax]
  exact if_pos hrange

/-- An object that has all fields in their order gives their values. -/
theorem fields?_object {members : List (String × Json)} {names : List String} (hnames : members.map (·.1) = names)
    (h : names.Nodup) :
    fields? format isClosed names (ofJson (.object members)) =
      some (members.map fun member => some (ofJson member.2)) := by
  subst hnames
  have hothers : ((members.map fun member => (member.1, ofJson member.2)).filter fun member =>
      !(members.map (·.1)).contains member.1) = [] := by
    refine List.filter_eq_nil_iff.mpr fun other hother => ?_
    obtain ⟨member, hmember, rfl⟩ := List.mem_map.mp hother
    simpa using ⟨member.2, hmember⟩
  rw [ofJson, ofJsonMembers_eq, fields?]
  simp only [hothers, List.mapM_map]
  refine (if_neg (by simp [areMembersValid])).trans (mapM_eq_some_map fun member hmember => ?_)
  have hnodup : ((members.map fun member => (member.1, ofJson member.2)).map (·.1)).Nodup := by
    rwa [List.map_map]
  have hmem : (member.1, ofJson member.2) ∈ members.map fun member => (member.1, ofJson member.2) :=
    List.mem_map_of_mem hmember
  rw [Function.comp_apply, filter_key_eq hnodup hmem]

/-- What may be missing is read as it was written if what is there is, and is not null. -/
theorem nullable_ofOption {α : Type} {read : Document → Option α} {write : α → Json} {value : Option α}
    (hnull : ∀ a, ofJson (write a) ≠ null) (h : ∀ a ∈ value, read (ofJson (write a)) = some a) :
    nullable read (ofJson (.ofOption (value.map write))) = some value := by
  cases value with
  | none => rfl
  | some a =>
    have hread := h a rfl
    rw [Option.map_some, Json.ofOption]
    unfold nullable
    split
    · exact absurd ‹_› (hnull a)
    · rw [hread]
      rfl

end Document

/-! ### Columns -/

theorem ClientType.ofDocument?_toJson (format : DocumentFormat) (type : ClientType) :
    ofDocument? format (.ofJson type.toJson) = some type := by
  cases type with
  | other name => rfl
  | _ => simp [toJson, ofDocument?, Document.ofJson, Document.choice?, named, List.lookup_cons]

theorem ClientType.isPlain_toJson (type : ClientType) : type.toJson.IsPlain := by
  cases type with
  | other name =>
    refine .object fun member hmember => ?_
    obtain rfl := List.mem_singleton.mp hmember
    exact .text name
  | _ => exact .text _

namespace Column

/-- The size of a column has 32 bits. -/
def Fits (column : Column) : Prop := ∀ size ∈ column.size, size < Nat.pow 2 32

variable {column : Column}

theorem Fits.keysNotNull (h : column.Fits) : column.keysNotNull.Fits := h

theorem keysNotNull_keysNotNull (column : Column) : column.keysNotNull.keysNotNull = column.keysNotNull := by
  simp only [keysNotNull]
  cases column.isNullable <;> cases column.isPrimary <;> cases column.isIdentity <;> rfl

theorem ofDocument?_toJson (format : DocumentFormat) (h : column.Fits) :
    ofDocument? format (.ofJson column.toJson) = some column.keysNotNull := by
  have hfields : Document.fields? format false ["name", "client_type", "database_type", "size", "is_nullable",
      "is_primary", "is_identity", "is_generated", "has_default_value"] (.ofJson column.toJson) = _ :=
    Document.fields?_object rfl (by decide)
  have hclient : Document.nullable (ClientType.ofDocument? format)
      (.ofJson (.ofOption (column.clientType.map (·.toJson)))) = some column.clientType := by
    refine Document.nullable_ofOption (fun type => ?_) fun type _ => ClientType.ofDocument?_toJson format type
    cases type <;> simp [ClientType.toJson, Document.ofJson]
  have hdatabase : Document.nullable Document.text?
      (.ofJson (.ofOption (column.databaseType.map .text))) = some column.databaseType := by
    refine Document.nullable_ofOption (fun type => ?_) fun type _ => rfl
    simp [Document.ofJson]
  have hsize : Document.nullable (Document.nat? 32)
      (.ofJson (.ofOption (column.size.map .ofNat))) = some column.size := by
    have hsizes : ∀ size ∈ column.size, size ≤ NumberLiteral.maxSignificand := fun size hsize =>
      Nat.le_trans (Nat.le_of_lt (h size hsize)) (by decide)
    refine Document.nullable_ofOption (fun size => ?_) fun size hsize =>
      Document.nat?_ofNat (h size hsize) (hsizes size hsize)
    rw [Json.ofNat, Document.ofJson]
    split <;> simp
  rw [ofDocument?, hfields]
  simp [hclient, hdatabase, hsize, Document.required, Document.withDefault, Document.text?, Document.bool?,
    Document.ofJson]

theorem isPlain_toJson (column : Column) : column.toJson.IsPlain := by
  have hoption : ∀ {α : Type} {write : α → Json} {value : Option α}, (∀ a, (write a).IsPlain) →
      (Json.ofOption (value.map write)).IsPlain := by
    intro α write value h
    cases value with
    | none => exact .null
    | some a => exact h a
  refine .object fun member hmember => ?_
  simp only [List.mem_cons, List.not_mem_nil, or_false] at hmember
  obtain rfl | rfl | rfl | rfl | rfl | rfl | rfl | rfl | rfl := hmember
  · exact .text _
  · exact hoption ClientType.isPlain_toJson
  · exact hoption fun type => .text type
  · exact hoption fun size => .number size
  all_goals exact .bool _

end Column

namespace Columns

/-- The columns with the keys among them made not nullable. -/
def keysNotNull (columns : Columns) : Columns := ⟨columns.columns.map (·.keysNotNull)⟩

/-- Every size has 32 bits. -/
def Fits (columns : Columns) : Prop := ∀ column ∈ columns.columns, column.Fits

variable {columns : Columns}

theorem keysNotNull_keysNotNull (columns : Columns) : columns.keysNotNull.keysNotNull = columns.keysNotNull := by
  simp [keysNotNull, Column.keysNotNull_keysNotNull]

theorem Fits.keysNotNull (h : columns.Fits) : columns.keysNotNull.Fits := by
  intro column hcolumn
  obtain ⟨given, hgiven, rfl⟩ := List.mem_map.mp hcolumn
  exact (h given hgiven).keysNotNull

theorem ofDocument?_toJson (format : DocumentFormat) (h : columns.Fits) :
    ofDocument? format (.ofJson columns.toJson) = some columns.keysNotNull := by
  have hcolumns : columns.columns.mapM (Column.ofDocument? format ∘ .ofJson ∘ Column.toJson) =
      some (columns.columns.map (·.keysNotNull)) :=
    mapM_eq_some_map fun column hcolumn => Column.ofDocument?_toJson format (h column hcolumn)
  simp [ofDocument?, toJson, Document.ofJson, Document.list?, List.mapM_map, hcolumns]
  rfl

theorem isPlain_toJson (columns : Columns) : columns.toJson.IsPlain := by
  refine .list fun item hitem => ?_
  obtain ⟨column, -, rfl⟩ := List.mem_map.mp hitem
  exact column.isPlain_toJson

end Columns

end CrudSql

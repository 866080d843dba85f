import CrudSql.Proofs.Field
import CrudSql.Proofs.Outcome

/-! Sets of fields made by any sequence of operations. A set compares a new field with those that it has,
    without the quotes around the new one's name; so only a field whose name keeps quotes of its own can
    be taken in twice, or be refused for another one. -/

namespace CrudSql
open Text

namespace FieldSet
variable {a b set : FieldSet} {field present : Field} {kind : Field → Prop}

/-! ### What an operation keeps -/

theorem mem_push (h : present ∈ (set.push field).fields) : present ∈ set.fields ∨ present = field := by
  rw [fields_push] at h
  split at h
  · exact Or.inl h
  · exact (List.mem_append.mp h).imp_right List.mem_singleton.mp

theorem mem_union (h : field ∈ (a.union b).fields) : field ∈ a.fields ∨ field ∈ b.fields := by
  rw [fields_union, List.mem_append] at h
  exact h.imp_right fun h => (List.mem_filter.mp h).1

theorem mem_parse {names : List String} (hset : parse names = .ok set) (h : field ∈ set.fields) :
    ∃ name ∈ names, Field.named name = .ok field := by
  obtain ⟨fields, hfields, hset⟩ := bind_eq_ok.mp hset
  cases hset
  exact exists_of_mem_mapM hfields field (mem_of_mem_ofList h)

/-- A set takes no field in whose name, without quotes around it, one of its fields has. -/
theorem fields_push_eq_iff : (set.push field).fields = set.fields ↔
    ∃ present ∈ set.fields, present.hasName field.name = true := by
  rw [← contains_iff, fields_push]
  cases set.contains field.name <;> simp

/-- Sets made by any sequence of operations, from fields of one kind. -/
inductive Made (kind : Field → Prop) : FieldSet → Prop
  | parse {names : List String} {set : FieldSet} (hset : parse names = .ok set)
      (hkind : ∀ name ∈ names, ∀ field, Field.named name = .ok field → kind field) : Made kind set
  | gather {fields : List Field} (hkind : ∀ field ∈ fields, kind field) : Made kind (ofList fields)
  | single {field : Field} (hkind : kind field) : Made kind (singleton field)
  | push {set : FieldSet} {field : Field} (hmade : Made kind set) (hkind : kind field) :
      Made kind (set.push field)
  | filter {set : FieldSet} (hmade : Made kind set) (keep : Field → Bool) : Made kind (set.filter keep)
  | union {a b : FieldSet} (ha : Made kind a) (hb : Made kind b) : Made kind (a.union b)
  | inter {a b : FieldSet} (ha : Made kind a) (hb : Made kind b) : Made kind (a.inter b)
  | diff {a b : FieldSet} (ha : Made kind a) (hb : Made kind b) : Made kind (a.diff b)

namespace Made

/-- No operation makes a field of its own. -/
theorem kind_of_mem (h : Made kind set) : ∀ field ∈ set.fields, kind field := by
  induction h with
  | parse hset hkind =>
    intro field hfield
    obtain ⟨name, hname, hnamed⟩ := mem_parse hset hfield
    exact hkind name hname field hnamed
  | gather hkind => exact fun field hfield => hkind field (mem_of_mem_ofList hfield)
  | single hkind =>
    intro field hfield
    cases List.mem_singleton.mp hfield
    exact hkind
  | push hmade hkind ih =>
    intro field hfield
    rcases mem_push hfield with hfield | rfl
    · exact ih field hfield
    · exact hkind
  | filter hmade keep ih => exact fun field hfield => ih field (List.mem_filter.mp hfield).1
  | union ha hb iha ihb =>
    intro field hfield
    exact (mem_union hfield).elim (iha field) (ihb field)
  | inter ha hb iha ihb | diff ha hb iha ihb =>
    exact fun field hfield => iha field (List.mem_filter.mp hfield).1

end Made

/-- A set has two fields of one name only where the later one was not found under its own name. -/
theorem not_isPlain_of_sameName {i j : Nat} (hij : i < j) (hj : j < set.fields.length)
    (hsame : sameName set.fields[i].name set.fields[j].name = true) : ¬set.fields[j].IsPlain := by
  intro hplain
  have hdiffer := List.pairwise_iff_getElem.mp set.distinct i j (by omega) hj hij
  rw [Field.hasName_of_plain hplain, hsame] at hdiffer
  cases hdiffer

/-- Whatever the operations that made a set, it has two fields whose names are the same but for case only
    if a field went into it whose name is not plain; and a plain field is refused exactly if a field of its
    name is in the set. -/
theorem Made.tells_apart (h : Made kind set) :
    (∀ (i j : Nat) (hij : i < j) (hj : j < set.fields.length),
      sameName set.fields[i].name set.fields[j].name = true →
        kind set.fields[j] ∧ ¬set.fields[j].IsPlain) ∧
    ∀ field : Field, field.IsPlain → ((set.push field).fields = set.fields ↔
      ∃ present ∈ set.fields, sameName present.name field.name = true) := by
  refine ⟨fun i j hij hj hsame => ?_, fun field hplain => ?_⟩
  · exact ⟨h.kind_of_mem _ (List.getElem_mem hj), not_isPlain_of_sameName hij hj hsame⟩
  · rw [fields_push_eq_iff]
    simp only [Field.hasName_of_plain hplain]

/-- Fields with plain names are told apart in a union of sets. -/
theorem Made.tells_apart_union :
    let set := (singleton { name := "Id" }).union (ofList [{ name := "ID" }, { name := "Name" }])
    set.names = ["Id", "Name"] ∧
      ∀ (i j : Nat) (hij : i < j) (hj : j < set.fields.length),
        sameName set.fields[i].name set.fields[j].name = false := by
  intro set
  have hplain : ∀ field ∈ [({ name := "ID" } : Field), { name := "Name" }], field.IsPlain := by
    decide
  have hmade : Made Field.IsPlain set :=
    .union (.single (by decide : Field.named "Id" = .ok { name := "Id" })) (.gather hplain)
  refine ⟨by decide, fun i j hij hj => Bool.eq_false_iff.mpr fun hsame => ?_⟩
  obtain ⟨hlater, hnot⟩ := hmade.tells_apart.1 i j hij hj hsame
  exact hnot hlater

/-- A field whose name keeps a pair of quotes goes twice into one set, and is refused by another that has
    no field of its name. -/
theorem quoted_taken_twice :
    let quoted : Field := { name := "[a]" }
    let bare : Field := { name := "a" }
    (∃ set, parse ["[[a]]", "[[a]]"] = .ok set ∧ set.fields = [quoted, quoted]) ∧
      ((singleton bare).push quoted).fields = [bare] ∧ sameName bare.name quoted.name = false := by
  intro quoted bare
  exact ⟨⟨ofList [quoted, quoted], by decide, by decide⟩, by decide, by decide⟩

end FieldSet

end CrudSql

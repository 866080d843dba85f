import CrudSql.Proofs.Predicate.Canonical
import CrudSql.Proofs.Predicate.Text

/-! A predicate that is written in one pass. The pass goes over the conditions from left to right, with the
    text and the bindings that are there so far and the names that they take, and knows the whole setting.
    What it leaves are the text and the bindings of the predicate; and of the setting only the array
    threshold tells how the parameters are named. -/

namespace CrudSql
open TakenNames

namespace Test
variable {setting : Setting} {test : Test}

/-- The parameters of a test in the form that a setting gives to its list. -/
def formSlots (setting : Setting) : Test → List (String × Value)
  | null _ => []
  | compare _ value => [("", .scalar value)]
  | range _ low high => [("_Left", low), ("_Right", high)]
  | among _ [] => []
  | among _ values =>
    match ListForm.of setting values.length with
    | .array => [("_In", .list values)]
    | .values | .inline => values.mapIdx fun i value => (s!"_In_{i}", value)

/-- In a list and in a table of values the parameters are the same. -/
theorem formSlots_eq : test.formSlots setting = test.slots setting.arrayThreshold := by
  cases test with
  | null | compare | range => rfl
  | among negated values =>
    cases values with
    | nil => rfl
    | cons value values =>
      simp only [formSlots, slots, ListForm.of, List.isEmpty_cons, Bool.false_eq_true, if_false]
      by_cases harray : exceeds (value :: values).length setting.arrayThreshold = true
      · simp only [harray, if_true]
      · simp only [harray, Bool.false_eq_true, if_false]
        by_cases hvalues : exceeds (value :: values).length setting.valuesThreshold = true
        · simp only [hvalues, if_true]
        · simp only [hvalues, Bool.false_eq_true, if_false]

end Test

/-- What a pass has written, and the names that it has taken. -/
structure Draft where
  taken : TakenNames := ∅
  atoms : List Atom := []
  bindings : List (String × Value) := []

namespace Draft

/-- The draft with more text at its end. -/
def write (draft : Draft) (atoms : List Atom) : Draft := { draft with atoms := draft.atoms ++ atoms }

/-- A draft and what a pass that went on with its names has written. -/
def followedBy (draft next : Draft) : Draft where
  taken := next.taken
  atoms := draft.atoms ++ next.atoms
  bindings := draft.bindings ++ next.bindings

/-- The text of a draft. -/
def text (setting : Setting) (draft : Draft) : String := String.ofList (draft.atoms.flatMap (·.chars setting))

section Pass
variable (setting : Setting) (semantics : NullSemantics) (lead : String)

/-- Names a condition, writes it and binds its values. -/
def condition (draft : Draft) (condition : Condition) : Draft :=
  let slots := condition.test.formSlots setting
  let (name, taken) := draft.taken.assign (parameterBase (condition.parameter.getD condition.field.name))
    (slots.map (·.1))
  let bindings := slots.map fun (ending, value) => (lead ++ name ++ ending, value)
  { taken
    atoms := draft.atoms ++ condition.test.atoms setting semantics (.name condition.field.name)
      (bindings.map fun (parameter, _) => .placeholder parameter)
    bindings := draft.bindings ++ bindings }

/-- Writes conditions and groups side by side, with a connective between them. -/
def items (connective : Connective) (isFirst : Bool) (draft : Draft) : Forest Condition → Draft
  | .nil => draft
  | .leaf value rest =>
    let draft := draft.write (if isFirst then [] else [.fixed connective.sql])
    items connective false (draft.condition setting semantics lead value) rest
  | .group negated inward inner rest =>
    if inner.isBare then items connective isFirst draft rest
    else
      let draft := draft.write (if isFirst then [] else [.fixed connective.sql])
      let draft := draft.write ((if negated then [.fixed "NOT "] else []) ++ [.fixed "("])
      let draft := (items inward true draft inner).write [.fixed ")"]
      items connective false draft rest

end Pass

end Draft

/-- The predicate as a pass leaves it that started with nothing. -/
def Predicate.draft (setting : Setting) (semantics : NullSemantics) (lead : String) (predicate : Predicate) : Draft :=
  ({} : Draft).items setting semantics lead .and true predicate.root

namespace Draft
variable {setting : Setting} {semantics : NullSemantics} {lead : String} {draft : Draft} {connective : Connective}
  {isFirst : Bool} {forest other : Forest Condition}

/-! ### What a pass does -/

/-- What a pass over a condition adds is the condition with its name. -/
theorem condition_eq (condition : Condition) : draft.condition setting semantics lead condition =
    let named := condition.assignName setting.arrayThreshold draft.taken
    draft.followedBy
      ⟨named.2, named.1.atoms setting semantics lead, named.1.bindings setting.arrayThreshold lead⟩ := by
  rw [Draft.condition, Test.formSlots_eq]
  rfl

/-- What a pass over items adds are the items with their names. -/
theorem items_eq : draft.items setting semantics lead connective isFirst forest =
    let named := forest.mapAccum (Condition.assignName setting.arrayThreshold) draft.taken
    draft.followedBy ⟨named.2, named.1.atoms (·.atoms setting semantics lead) connective isFirst,
      named.1.leaves.flatMap (·.bindings setting.arrayThreshold lead)⟩ := by
  induction forest generalizing draft connective isFirst with
  | nil => simp [items, Forest.mapAccum, Forest.atoms, Forest.leaves, followedBy]
  | leaf condition rest ih =>
    simp [items, ih, condition_eq, Forest.mapAccum, Forest.atoms, Forest.leaves, followedBy, write]
  | group negated inward inner rest ihi ihr =>
    by_cases hbare : inner.isBare = true
    · have hnamed : ∀ taken, (inner.mapAccum (Condition.assignName setting.arrayThreshold) taken).1.leaves = [] :=
        fun taken => Forest.isBare_iff.mp (Forest.isBare_mapAccum.trans hbare)
      simp [items, hbare, ihr, Forest.mapAccum, Forest.atoms, Forest.leaves, Forest.isBare_mapAccum,
        Forest.mapAccum_snd_of_isBare hbare, hnamed]
    · simp [items, hbare, ihi, ihr, Forest.mapAccum, Forest.atoms, Forest.leaves, Forest.isBare_mapAccum,
        followedBy, write]

end Draft

/-- Bindings with a text before the names of their parameters. -/
def ledBy (lead : String) (bindings : List (String × Value)) : List (String × Value) :=
  bindings.map fun (parameter, value) => (lead ++ parameter, value)

theorem NamedCondition.bindings_eq_ledBy (t : Option Nat) (lead : String) (named : NamedCondition) :
    named.bindings t lead = ledBy lead (named.bindings t "") := by
  simp [bindings, ledBy, Function.comp_def, String.append_assoc]

namespace Predicate
variable {setting s s' : Setting} {semantics : NullSemantics} {lead : String} {predicate : Predicate}

/-- The lead stands before the names, and has no part in how they are chosen. -/
theorem bindings_eq_ledBy (t : Option Nat) (lead : String) (predicate : Predicate) :
    predicate.bindings t lead = ledBy lead (predicate.bindings t "") := by
  rw [bindings, bindings, ledBy, List.map_flatMap]
  exact List.flatMap_congr fun named _ => named.bindings_eq_ledBy t lead

/-- A pass takes the names of the predicate, writes it and binds its parameters. -/
theorem draft_eq : predicate.draft setting semantics lead =
    ⟨(predicate.items.mapAccum (Condition.assignName setting.arrayThreshold) ∅).2,
      (predicate.namedRoot setting.arrayThreshold).atoms (·.atoms setting semantics lead) .and true,
      predicate.bindings setting.arrayThreshold lead⟩ := by
  rw [draft, Draft.items_eq, bindings, ← leaves_namedRoot]
  rfl

theorem bindings_draft :
    (predicate.draft setting semantics lead).bindings = predicate.bindings setting.arrayThreshold lead := by
  rw [draft_eq]

theorem text?_eq_draft : predicate.text? setting semantics lead =
    if predicate.isEmpty then none else some ((predicate.draft setting semantics lead).text setting) := by
  rw [text?, atoms?_eq_namedRoot, draft_eq]
  split
  · rfl
  · rw [Option.map_some, Sql.render_token]
    rfl

/-- Of two settings with one array threshold, either names the parameters as the other does, whatever
    else they say: a pass under the one binds what the other binds, behind its own lead, and a text that
    is written under the one has the placeholders that the other binds. Without a threshold the bindings
    are those for SQL Server. -/
theorem bindings_of_arrayThreshold (h : s.arrayThreshold = s'.arrayThreshold) (predicate : Predicate)
    (lead : String) :
    predicate.bindings s.arrayThreshold lead = ledBy lead (predicate.bindings s'.arrayThreshold "") ∧
      (∀ semantics semantics', (predicate.draft s semantics lead).bindings =
        ledBy lead (predicate.draft s' semantics' "").bindings) ∧
      (∀ semantics text, predicate.atoms? s semantics lead = some text →
        Atom.placeholders text = (ledBy lead (predicate.bindings s'.arrayThreshold "")).map (·.1)) ∧
      (s.arrayThreshold = none → ∀ semantics, (predicate.draft s semantics lead).bindings =
        predicate.bindings Setting.sqlServer.arrayThreshold lead) := by
  have hled : predicate.bindings s.arrayThreshold lead = ledBy lead (predicate.bindings s'.arrayThreshold "") := by
    rw [h]
    exact predicate.bindings_eq_ledBy _ lead
  refine ⟨hled, fun semantics semantics' => ?_, fun semantics text htext => ?_, fun hnone semantics => ?_⟩
  · rw [bindings_draft, bindings_draft]
    exact hled
  · rw [placeholders_atoms htext, hled]
  · rw [bindings_draft, hnone]
    rfl

/-- A list of two is an array under both settings, and a list of one is not, although the table of values
    is for any list under the second. -/
theorem bindings_of_arrayThreshold_one :
    let s : Setting := { Setting.postgreSql with arrayThreshold := some 1 }
    let s' : Setting := { Setting.mySql with arrayThreshold := some 1, valuesThreshold := some 0 }
    let ids : Condition := { field := { name := "Id" }, test := .among false [.scalar (.int 1), .scalar (.int 2)] }
    let id : Condition := { field := { name := "Id" }, test := .among true [.scalar (.int 3)] }
    let predicate : Predicate := { items := .group true .or .nil (.leaf ids (.leaf id .nil)) }
    s.arrayThreshold = s'.arrayThreshold ∧
      (predicate.draft s .nullNotEqual "_").bindings =
        [("_Id_In", .list [.scalar (.int 1), .scalar (.int 2)]), ("_Id_In_0", .scalar (.int 3))] ∧
      (predicate.draft s .nullNotEqual "_").bindings = ledBy "_" (predicate.draft s' .ansi "").bindings := by
  intro s s' ids id predicate
  have hbase : parameterBase "Id" = "Id" := by decide +kernel
  have hnamed : predicate.bindings (some 1) "" =
      [("Id_In", .list [.scalar (.int 1), .scalar (.int 2)]), ("Id_In_0", .scalar (.int 3))] := by
    have hfree : Text.lower "Id_In" ≠ Text.lower "Id_In_0" := by decide +kernel
    have hending : toString "_In_" ++ Nat.repr 0 = "_In_0" := rfl
    simp [predicate, ids, id, bindings, named, Forest.mapAccum, Forest.leaves, Condition.assignName, hbase,
      TakenNames.assign, TakenNames.firstFree, TakenNames.candidate, TakenNames.keys, NamedCondition.bindings,
      Test.slots, exceeds, hending, hfree]
  have h := bindings_of_arrayThreshold (show s.arrayThreshold = s'.arrayThreshold from rfl) predicate "_"
  refine ⟨rfl, ?_, h.2.1 _ _⟩
  rw [h.2.1 _ .ansi, bindings_draft, show s'.arrayThreshold = some 1 from rfl, hnamed]
  simp [ledBy]

end Predicate
end CrudSql

import CrudSql.Fault
import CrudSql.Text.Escaped

/-! What a build leaves in the log: events in order, which stay also when the build is refused after
    them. -/

namespace CrudSql

/-- What may be told of a build. -/
inductive Event where
  /-- The statement for an operation is built, with this text. -/
  | built (dialect operation sql : String)
  /-- Rows are matched by the primary key, as no qualifiers were given. -/
  | qualifiersDefaulted (table : String) (qualifiers : List String)
  /-- An insert of more rows than the threshold is written as a merge. -/
  | insertAsMerge (table : String) (rows threshold : Nat)
  deriving DecidableEq, Repr

namespace Event

/-- The level of the log at which the event is told. -/
def level : Event → String
  | built .. => "DEBUG"
  | qualifiersDefaulted .. | insertAsMerge .. => "TRACE"

/-- The text of the event, which is always the same. -/
def message : Event → String
  | built .. => "statement built"
  | qualifiersDefaulted .. => "qualifiers defaulted to the primary key"
  | insertAsMerge .. => "insert-all rendered as MERGE to keep output rows in input order"

/-- The named values of an event besides its message. -/
def details : Event → List (String × String)
  | built dialect operation sql => [("dialect", dialect), ("operation", operation), ("sql", sql)]
  | qualifiersDefaulted table qualifiers =>
    [("table", table), ("qualifiers", Text.escapedList qualifiers)]
  | insertAsMerge table rows threshold =>
    [("table", table), ("batch_size", toString rows), ("threshold", toString threshold)]

end Event

/-- The outcome of a computation together with the events on the way to it. -/
structure Trace (α : Type) where
  events : List Event
  outcome : Except Fault α

namespace Trace
variable {α β : Type}

/-- A computation without events. -/
def ofExcept (outcome : Except Fault α) : Trace α := ⟨[], outcome⟩

/-- Leaves an event. -/
def emit (event : Event) : Trace Unit := ⟨[event], .ok ()⟩

/-- Goes on with a result; after a refusal the events so far remain. -/
def andThen (trace : Trace α) (next : α → Trace β) : Trace β :=
  match trace.outcome with
  | .error fault => ⟨trace.events, .error fault⟩
  | .ok a => ⟨trace.events ++ (next a).events, (next a).outcome⟩

instance : Monad Trace where
  pure a := ⟨[], .ok a⟩
  bind := andThen

instance : MonadLift (Except Fault) Trace := ⟨ofExcept⟩

instance : MonadExceptOf Fault Trace where
  throw fault := ⟨[], .error fault⟩
  tryCatch trace handle :=
    match trace.outcome with
    | .error fault => ⟨trace.events ++ (handle fault).events, (handle fault).outcome⟩
    | .ok _ => trace

instance : LawfulMonad Trace :=
  LawfulMonad.mk' Trace
    (fun ⟨events, outcome⟩ => by cases outcome <;> simp [Functor.map, andThen])
    (fun a next => by simp [bind, andThen, pure])
    (fun ⟨events, outcome⟩ next last => by
      cases outcome with
      | error fault => simp [bind, andThen]
      | ok a => cases following : (next a).outcome <;> simp [bind, andThen, following])

theorem outcome_andThen (trace : Trace α) (next : α → Trace β) :
    (trace.andThen next).outcome = (do next (← trace.outcome) |>.outcome) := by
  unfold andThen
  split <;> simp_all [bind, Except.bind]

end Trace

end CrudSql

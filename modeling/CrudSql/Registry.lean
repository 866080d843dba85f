import CrudSql.Engine
import CrudSql.Fault
import CrudSql.KeyMap
import CrudSql.Text.Blank
import CrudSql.Text.LowerCase

/-! Engines by the names of their providers, in any case. Several names may share one engine, which is
    known by the number under which it came in. -/

namespace CrudSql

/-- An engine with the number under which it came in. -/
structure SharedEngine where
  number : Nat
  engine : Engine
  deriving DecidableEq, Repr

/-- The engines by the keys of their providers. -/
structure Registry where
  engines : KeyMap SharedEngine := {}
  /-- The number of engines that have come in. -/
  count : Nat := 0

namespace Registry
open Text

/-- The key of a provider: its name in small letters, without white space around it. -/
def key (provider : String) : String := lower (trim provider)

/-- The registry with an engine under a name that shares it. -/
def share (registry : Registry) (provider : String) (engine : SharedEngine) : Registry :=
  { registry with engines := registry.engines.insert (key provider) engine }

/-- The registry with a new engine under a name. -/
def register (registry : Registry) (provider : String) (engine : Engine) : Registry :=
  { registry with count := registry.count + 1 }.share provider ⟨registry.count, engine⟩

/-- The engine of a provider. -/
def get? (registry : Registry) (provider : String) : Option SharedEngine :=
  registry.engines.get? (key provider)

/-- The engine of a provider, which must be known. -/
def resolve (registry : Registry) (provider : String) : Except Fault SharedEngine :=
  match registry.get? provider with
  | some engine => .ok engine
  | none => .error (.providerUnknown provider)

/-- The registry with one new engine under several names. -/
def registerAll (registry : Registry) (providers : List String) (engine : Engine) : Registry :=
  providers.foldl (fun registry provider => registry.share provider ⟨registry.count - 1, engine⟩)
    { registry with count := registry.count + 1 }

/-- The engines of the three dialects under the usual names of their providers. -/
def builtIn (options : Options) : Registry :=
  ((({} : Registry).registerAll ["sqlserver", "mssql"] { dialect := .sqlServer, options }).registerAll
    ["postgres", "postgresql"] { dialect := .postgreSql, options }).registerAll
    ["mysql", "mariadb"] { dialect := .mySql, options }

end Registry

end CrudSql

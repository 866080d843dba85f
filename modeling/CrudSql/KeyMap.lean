/-! Values by keys. The bindings are a list in which every key stands once. -/

namespace CrudSql

/-- Values by their keys, in the order of the keys. -/
structure KeyMap (α : Type) where
  bindings : List (String × α) := []
  nodup : (bindings.map (·.1)).Nodup := by simp

namespace KeyMap
variable {α : Type}

/-- The map without keys. -/
def empty : KeyMap α := {}

/-- The number of keys. -/
def size (map : KeyMap α) : Nat := map.bindings.length

/-- Whether there is no key. -/
def isEmpty (map : KeyMap α) : Bool := map.bindings.isEmpty

/-- The values in the order of their keys. -/
def values (map : KeyMap α) : List α := map.bindings.map (·.2)

/-- The value of a key. -/
def get? (map : KeyMap α) (key : String) : Option α := map.bindings.lookup key

/-- Whether a key has a value. -/
def contains (map : KeyMap α) (key : String) : Bool := (map.get? key).isSome

/-- The map without a key. -/
def erase (map : KeyMap α) (key : String) : KeyMap α where
  bindings := map.bindings.filter (·.1 != key)
  nodup := map.nodup.sublist (List.filter_sublist.map _)

theorem ne_of_mem_erase {map : KeyMap α} {key : String} {binding : String × α}
    (member : binding ∈ (map.erase key).bindings) : binding.1 ≠ key := by
  simpa using (List.mem_filter.1 member).2

/-- Binds a key to a value, whatever it was bound to. -/
def insert (map : KeyMap α) (key : String) (value : α) : KeyMap α where
  bindings := (map.erase key).bindings ++ [(key, value)]
  nodup := by
    rw [List.map_append, List.nodup_append]
    refine ⟨(map.erase key).nodup, by simp, ?_⟩
    intro other member last isLast
    obtain ⟨binding, bound, rfl⟩ := List.mem_map.1 member
    have := ne_of_mem_erase bound
    simp_all

theorem get?_erase (map : KeyMap α) (key other : String) :
    (map.erase key).get? other = if key = other then none else map.get? other := by
  obtain ⟨bindings, nodup⟩ := map
  simp only [get?, erase]
  clear nodup
  induction bindings with
  | nil => simp
  | cons binding rest ih =>
    obtain ⟨k, v⟩ := binding
    by_cases hk : k = key <;> by_cases ho : other = k <;>
      simp_all [List.lookup_cons] <;> grind

theorem get?_insert (map : KeyMap α) (key other : String) (value : α) :
    (map.insert key value).get? other = if key = other then some value else map.get? other := by
  have append : ∀ bindings : List (String × α),
      (bindings ++ [(key, value)]).lookup other =
        (bindings.lookup other).or (if key = other then some value else none) := by
    intro bindings
    induction bindings with
    | nil => simp [List.lookup_cons]; grind
    | cons binding rest ih => grind
  have erased := get?_erase map key other
  simp only [get?] at erased ⊢
  simp only [insert, append, erased]
  split <;> simp_all

end KeyMap

end CrudSql

import CrudSql.Proofs.ColumnCache
import CrudSql.Proofs.Document.Columns

/-! The text of a cache, from which the cache is read again. Only the names that were given for the tables
    are written, without white space at their ends; their keys are found again from them. -/

namespace CrudSql

namespace KeyMap
variable {α : Type} {map other : KeyMap α} {key : String} {value : α}

theorem ext_bindings (h : map.bindings = other.bindings) : map = other := by
  cases map
  cases other
  cases h
  rfl

theorem get?_eq_some_iff : map.get? key = some value ↔ (key, value) ∈ map.bindings := by
  rw [get?, List.lookup_eq_some_iff]
  constructor
  · rintro ⟨before, after, hbindings, -⟩
    rw [hbindings]
    exact List.mem_append_right _ List.mem_cons_self
  · intro hmem
    obtain ⟨before, after, hbindings⟩ := List.append_of_mem hmem
    refine ⟨before, after, hbindings, fun binding hbefore => ?_⟩
    have hnodup := map.nodup
    rw [hbindings, List.map_append, List.map_cons, List.nodup_append] at hnodup
    exact bne_iff_ne.mpr (hnodup.2.2 _ (List.mem_map_of_mem hbefore) _ List.mem_cons_self).symm

theorem bindings_insert (h : key ∉ map.bindings.map (·.1)) :
    (map.insert key value).bindings = map.bindings ++ [(key, value)] := by
  have hkept : (map.erase key).bindings = map.bindings := by
    refine List.filter_eq_self.mpr fun binding hbinding => bne_iff_ne.mpr ?_
    rintro rfl
    exact h (List.mem_map_of_mem hbinding)
  exact congrArg (· ++ [(key, value)]) hkept

end KeyMap

/-- The table with the keys among its columns made not nullable. -/
def CachedTable.keysNotNull (table : CachedTable) : CachedTable := { table with columns := table.columns.keysNotNull }

namespace ColumnCache
variable {cache : ColumnCache} {call : Change} {changes : List Change} {table : String} {retrieved : String}

/-! ### What a cache holds -/

/-- The sizes of the columns that are stored, if any are, have 32 bits. -/
def Change.Fits (call : Change) : Prop := ∀ columns ∈ call.stored, columns.Fits

/-- A table stands under the key of its name, which has no white space at its ends. -/
structure IsFiled (binding : String × CachedTable) : Prop where
  key : ColumnCache.key binding.2.name = .ok binding.1
  trimmed : Text.trim binding.2.name = binding.2.name
  fits : binding.2.columns.Fits

/-- Every table of the cache is where its name says. -/
def InOrder (cache : ColumnCache) : Prop := ∀ binding ∈ cache.tables.bindings, IsFiled binding

theorem key_trim (table : String) : key (Text.trim table) = key table := by
  have hcontent : Ident.content (Text.trim table) = Ident.content table := by
    simp only [Ident.content, Text.toList_trim, trimChars_trimChars]
  rw [key, key, Ident.parse, Ident.parse, hcontent]

theorem InOrder.change (h : cache.InOrder) (hc : call.Fits) : (cache.change call).InOrder := by
  cases call with
  | insert name columns =>
    cases hkey : key name with
    | error fault => simpa [ColumnCache.change, insert, hkey, bind, Except.bind] using h
    | ok k =>
      have hnext : cache.change (.insert name columns) =
          ⟨cache.tables.insert k { name := Text.trim name, columns }⟩ := by
        simp [ColumnCache.change, insert, hkey, bind, Except.bind, pure, Except.pure]
      rw [hnext]
      intro binding hbinding
      obtain hold | hnew := List.mem_append.mp hbinding
      · exact h binding (List.mem_filter.mp hold).1
      · obtain rfl := List.mem_singleton.mp hnew
        exact ⟨(key_trim name).trans hkey, by simp [Text.trim, trimChars_trimChars], hc columns rfl⟩
  | erase name =>
    cases hkey : key name with
    | error fault => simpa [ColumnCache.change, erase, hkey] using h
    | ok k =>
      have hnext : cache.change (.erase name) = ⟨cache.tables.erase k⟩ := by
        simp [ColumnCache.change, erase, hkey]
      rw [hnext]
      exact fun binding hbinding => h binding (List.mem_filter.mp hbinding).1

theorem inOrder_after (h : ∀ call ∈ changes, call.Fits) : (after changes).InOrder := by
  have hrun : ∀ {cache : ColumnCache} {changes : List Change}, cache.InOrder → (∀ call ∈ changes, call.Fits) →
      (changes.foldl ColumnCache.change cache).InOrder := by
    intro cache changes hcache hchanges
    induction changes generalizing cache with
    | nil => exact hcache
    | cons call changes ih =>
      obtain ⟨hcall, hrest⟩ := List.forall_mem_cons.mp hchanges
      exact ih (hcache.change hcall) hrest
  exact hrun (fun _ hmem => by cases hmem) h

/-! ### Order -/

/-- The bindings in the order of the names of their tables. -/
def ordered (cache : ColumnCache) : List (String × CachedTable) :=
  cache.tables.bindings.mergeSort fun a b => !decide (b.2.name < a.2.name)

theorem perm_ordered (cache : ColumnCache) : cache.ordered.Perm cache.tables.bindings :=
  List.mergeSort_perm ..

theorem map_ordered (cache : ColumnCache) : cache.ordered.map (·.2) = cache.sorted :=
  List.map_mergeSort fun _ _ _ _ => rfl

theorem pairwise_ordered (cache : ColumnCache) :
    cache.ordered.Pairwise fun a b => (!decide (b.2.name < a.2.name)) = true := by
  refine List.pairwise_mergeSort (fun a b c hab hbc => ?_) (fun a b => ?_) _
  · simp only [Bool.not_eq_true', decide_eq_false_iff_not, String.not_lt] at hab hbc ⊢
    exact String.le_trans hab hbc
  · simp only [Bool.or_eq_true, Bool.not_eq_true', decide_eq_false_iff_not, String.not_lt]
    exact String.le_total ..

/-- The cache that is read from the text of another one. -/
def reloaded (cache : ColumnCache) : ColumnCache :=
  ⟨{ bindings := cache.ordered.map fun binding => (binding.1, binding.2.keysNotNull)
     nodup := by
      rw [List.map_map]
      exact (cache.perm_ordered.map (·.1)).nodup_iff.mpr cache.tables.nodup }⟩

/-- Sorting finds the tables in their order already. -/
theorem ordered_reloaded (cache : ColumnCache) : cache.reloaded.ordered = cache.reloaded.tables.bindings :=
  List.mergeSort_of_pairwise (List.pairwise_map.mpr cache.pairwise_ordered)

theorem reloaded_reloaded (cache : ColumnCache) : cache.reloaded.reloaded = cache.reloaded := by
  have hbindings : cache.reloaded.reloaded.tables.bindings = cache.reloaded.tables.bindings := by
    have hagain : cache.reloaded.reloaded.tables.bindings =
      cache.reloaded.ordered.map fun binding => (binding.1, binding.2.keysNotNull) := rfl
    rw [hagain, ordered_reloaded]
    simp [reloaded, CachedTable.keysNotNull, Columns.keysNotNull_keysNotNull]
  exact congrArg ColumnCache.mk (KeyMap.ext_bindings hbindings)

theorem sorted_reloaded (cache : ColumnCache) : cache.reloaded.sorted = cache.sorted.map (·.keysNotNull) := by
  rw [← map_ordered, ordered_reloaded, ← map_ordered, reloaded]
  simp

theorem names_reloaded (cache : ColumnCache) : cache.reloaded.names = cache.names := by
  rw [names, sorted_reloaded, List.map_map]
  rfl

theorem size_reloaded (cache : ColumnCache) : cache.reloaded.size = cache.size := by
  have hlength : cache.reloaded.size = cache.ordered.length := List.length_map _
  rw [hlength, cache.perm_ordered.length_eq]
  rfl

theorem get?_reloaded (cache : ColumnCache) (table : String) :
    cache.reloaded.get? table = (cache.get? table).map (·.keysNotNull) := by
  have hget : ∀ k, cache.reloaded.tables.get? k = (cache.tables.get? k).map (·.keysNotNull) := by
    refine fun k => Option.ext fun value => ?_
    rw [Option.map_eq_some_iff, KeyMap.get?_eq_some_iff, reloaded, List.mem_map]
    constructor
    · rintro ⟨⟨k, given⟩, hgiven, ⟨⟩⟩
      exact ⟨given, KeyMap.get?_eq_some_iff.mpr (cache.perm_ordered.mem_iff.mp hgiven), rfl⟩
    · rintro ⟨given, hgiven, rfl⟩
      exact ⟨(k, given), cache.perm_ordered.mem_iff.mpr (KeyMap.get?_eq_some_iff.mp hgiven), rfl⟩
  cases hkey : key table with
  | error fault => simp [get?, hkey]
  | ok k =>
    rw [get?_of_key hkey, get?_of_key hkey, hget, Option.map_map, Option.map_map]
    rfl

/-! ### Reading what is written -/

theorem InOrder.reloaded (h : cache.InOrder) : cache.reloaded.InOrder := by
  intro binding hbinding
  obtain ⟨given, hgiven, rfl⟩ := List.mem_map.mp hbinding
  have hfiled := h given (cache.perm_ordered.mem_iff.mp hgiven)
  exact ⟨hfiled.key, hfiled.trimmed, hfiled.fits.keysNotNull⟩

/-- Tables under their keys are inserted one after the other. -/
theorem foldlM_insert {bindings : List (String × CachedTable)} (h : ∀ binding ∈ bindings, IsFiled binding)
    (hnodup : ((cache.tables.bindings ++ bindings).map (·.1)).Nodup) : ∃ loaded : ColumnCache,
      (bindings.map (·.2)).foldlM (fun cache table => cache.insert table.name table.columns) cache = .ok loaded ∧
        loaded.tables.bindings = cache.tables.bindings ++ bindings := by
  induction bindings generalizing cache with
  | nil => exact ⟨cache, rfl, (List.append_nil _).symm⟩
  | cons binding bindings ih =>
    obtain ⟨hfirst, hrest⟩ := List.forall_mem_cons.mp h
    have hinsert : cache.insert binding.2.name binding.2.columns = .ok ⟨cache.tables.insert binding.1 binding.2⟩ := by
      rw [insert, hfirst.key, hfirst.trimmed]
      rfl
    have hfresh : binding.1 ∉ cache.tables.bindings.map (·.1) := by
      rw [List.map_append, List.nodup_append] at hnodup
      exact fun hmem => hnodup.2.2 _ hmem _ List.mem_cons_self rfl
    have hnext : (cache.tables.insert binding.1 binding.2).bindings = cache.tables.bindings ++ [binding] :=
      KeyMap.bindings_insert hfresh
    have hnodup' : (((⟨cache.tables.insert binding.1 binding.2⟩ : ColumnCache).tables.bindings ++ bindings).map
        (·.1)).Nodup := by
      rwa [hnext, List.append_assoc]
    obtain ⟨loaded, hloaded, hbindings⟩ := ih hrest hnodup'
    refine ⟨loaded, ?_, ?_⟩
    · rw [List.map_cons, List.foldlM_cons, hinsert]
      exact hloaded
    · rw [hbindings, hnext, List.append_assoc]
      rfl

theorem isPlain_toJson (cache : ColumnCache) (retrieved : String) : (cache.toJson retrieved).IsPlain := by
  refine .object fun member hmember => ?_
  simp only [List.mem_cons, List.not_mem_nil, or_false] at hmember
  obtain rfl | rfl | rfl := hmember
  · exact .number version
  · exact .text retrieved
  · refine .list fun item hitem => ?_
    obtain ⟨table, -, rfl⟩ := List.mem_map.mp hitem
    refine .object fun member hmember => ?_
    simp only [List.mem_cons, List.not_mem_nil, or_false] at hmember
    obtain rfl | rfl := hmember
    · exact .text table.name
    · exact table.columns.isPlain_toJson

theorem tableOfDocument?_object {table : CachedTable} (h : table.columns.Fits) :
    tableOfDocument? (.ofJson (.object [("name", .text table.name), ("fields", table.columns.toJson)])) =
      some table.keysNotNull := by
  have hfields : Document.fields? .json false ["name", "fields"]
      (.ofJson (.object [("name", .text table.name), ("fields", table.columns.toJson)])) = _ :=
    Document.fields?_object rfl (by decide)
  rw [tableOfDocument?, hfields]
  simp [Document.required, Document.ofJson, Document.text?, Columns.ofDocument?_toJson .json h]
  rfl

theorem ofDocument?_toJson (h : ∀ table ∈ cache.sorted, table.columns.Fits) (hr : Instant.isValid retrieved = true) :
    File.ofDocument? (.ofJson (cache.toJson retrieved)) = some ⟨version, cache.sorted.map (·.keysNotNull)⟩ := by
  have hfields : Document.fields? .json false ["version", "retrieved_at", "tables"]
      (.ofJson (cache.toJson retrieved)) = _ := Document.fields?_object rfl (by decide)
  have hversion : Document.nat? 32 (.ofJson (.ofNat version)) = some version :=
    Document.nat?_ofNat (by decide) (by decide)
  have htables : cache.sorted.mapM (tableOfDocument? ∘ Document.ofJson ∘ fun table =>
      .object [("name", .text table.name), ("fields", table.columns.toJson)]) =
      some (cache.sorted.map (·.keysNotNull)) :=
    mapM_eq_some_map fun table htable => tableOfDocument?_object (h table htable)
  rw [File.ofDocument?, hfields]
  simp [Document.required, Document.list?, Document.ofJson, Document.text?, hversion, hr, htables]

theorem InOrder.parse_text (h : cache.InOrder) (hr : Instant.isValid retrieved = true) :
    parse (cache.text retrieved) = .ok cache.reloaded := by
  have hread : Json.read? (cache.text retrieved) = some (cache.toJson retrieved) :=
    (cache.isPlain_toJson retrieved).read?_indented
  have hfits : ∀ table ∈ cache.sorted, table.columns.Fits := by
    intro table htable
    rw [← map_ordered] at htable
    obtain ⟨binding, hbinding, rfl⟩ := List.mem_map.mp htable
    exact (h binding (cache.perm_ordered.mem_iff.mp hbinding)).fits
  have hnodup : (((({} : ColumnCache).tables.bindings ++ cache.reloaded.tables.bindings)).map (·.1)).Nodup :=
    cache.reloaded.tables.nodup
  obtain ⟨loaded, hloaded, hbindings⟩ := foldlM_insert h.reloaded hnodup
  have htables : cache.reloaded.tables.bindings.map (·.2) = cache.sorted.map (·.keysNotNull) := by
    rw [← map_ordered, ColumnCache.reloaded]
    simp
  rw [htables] at hloaded
  rw [parse, hread]
  simp only [ofJson, ofDocument?_toJson hfits hr, ofFile]
  rw [if_neg (by simp), hloaded]
  exact congrArg (Except.ok ∘ ColumnCache.mk) (KeyMap.ext_bindings hbindings)

/-- After any calls the text of a cache is read as a cache with the same tables and names, in which every
    table has the columns that it had, with the keys among them made not nullable. The text of that cache
    is read as itself. -/
theorem parse_text_after (changes : List Change) (retrieved retrieved' : String)
    (hfits : ∀ call ∈ changes, call.Fits) (hr : Instant.isValid retrieved = true)
    (hr' : Instant.isValid retrieved' = true) : ∃ loaded, parse ((after changes).text retrieved) = .ok loaded ∧
      (∀ table, loaded.get? table = ((after changes).get? table).map (·.keysNotNull)) ∧
      loaded.names = (after changes).names ∧ loaded.size = (after changes).size ∧
      parse (loaded.text retrieved') = .ok loaded := by
  have horder := inOrder_after hfits
  have hagain : parse ((after changes).reloaded.text retrieved') = .ok (after changes).reloaded := by
    rw [horder.reloaded.parse_text hr', reloaded_reloaded]
  exact ⟨(after changes).reloaded, horder.parse_text hr, get?_reloaded _, names_reloaded _, size_reloaded _, hagain⟩

/-- A key that was stored as nullable is not nullable in the cache that is read. -/
theorem parse_text_after_nullable :
    let id : Column := { name := "Id", size := some 8, isPrimary := true }
    let changes := [.insert " [dbo].[Person] " ⟨[id]⟩, .erase "Person"]
    id.isNullable = true ∧ Instant.isValid "2024-02-29T12:30:00Z" = true ∧
      ∃ loaded, parse ((after changes).text "2024-02-29T12:30:00Z") = .ok loaded ∧
        loaded.get? "DBO.PERSON" = some ⟨[{ id with isNullable := false }]⟩ := by
  intro id changes
  have hvalid : Instant.isValid "2024-02-29T12:30:00Z" = true := by
    with_unfolding_all decide
  have hfits : ∀ call ∈ changes, call.Fits := by
    refine List.forall_mem_cons.mpr ⟨?_, List.forall_mem_singleton.mpr ?_⟩
    · rintro _ ⟨⟩
      refine List.forall_mem_singleton.mpr ?_
      rintro _ ⟨⟩
      decide
    · rintro _ ⟨⟩
  have hgiven : Ident.parse " [dbo].[Person] " = .ok ⟨["dbo", "Person"]⟩ := by
    with_unfolding_all decide
  have hupper : Ident.parse "DBO.PERSON" = .ok ⟨["DBO", "PERSON"]⟩ := by
    with_unfolding_all decide
  have hshort : Ident.parse "Person" = .ok ⟨["Person"]⟩ := by
    with_unfolding_all decide
  have hstored : (after changes).get? "DBO.PERSON" = some ⟨[id]⟩ := by
    refine get?_after_eq_some_iff.mpr ⟨[], _, _, rfl, ⟨_, _, hgiven, hupper, by decide⟩, ?_⟩
    refine List.forall_mem_singleton.mpr ?_
    rintro ⟨first, second, hfirst, hsecond, hsame⟩
    cases hshort.symm.trans hfirst
    cases hupper.symm.trans hsecond
    revert hsame
    decide
  obtain ⟨loaded, hloaded, hget, -, -, -⟩ := parse_text_after changes _ _ hfits hvalid hvalid
  exact ⟨rfl, hvalid, loaded, hloaded, by rw [hget, hstored]; rfl⟩

end ColumnCache

end CrudSql

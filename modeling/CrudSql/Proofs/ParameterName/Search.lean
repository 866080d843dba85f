import CrudSql.Proofs.ParameterName

/-! The search for a free name, round by round and without a bound. A round looks at one candidate with all
    its endings; the search stops there if they are free, and otherwise goes on to the next number. It always
    stops: the taken names can refuse only so many candidates. -/

namespace CrudSql.TakenNames
open Text

variable {taken : TakenNames} {base name : String} {endings : List String} {n found rounds : Nat}

/-- From the `n`th candidate on, the search stops at a name after a number of rounds. -/
inductive Search (taken : TakenNames) (base : String) (endings : List String) : Nat → Nat → String → Prop
  | stop {n : Nat} (hfree : IsFree taken (candidate base n) endings) :
      Search taken base endings n 1 (candidate base n)
  | next {n rounds : Nat} {name : String} (htaken : ¬IsFree taken (candidate base n) endings)
      (hrest : Search taken base endings (n + 1) rounds name) : Search taken base endings n (rounds + 1) name

/-- The candidate is free, and those from the `n`th on before it are not. -/
structure IsLeast (taken : TakenNames) (base : String) (endings : List String) (n found : Nat) : Prop where
  le : n ≤ found
  free : IsFree taken (candidate base found) endings
  refused : ∀ m, n ≤ m → m < found → ¬IsFree taken (candidate base m) endings

theorem IsLeast.eq {other : Nat} (h : IsLeast taken base endings n found)
    (h' : IsLeast taken base endings n other) : found = other := by
  rcases Nat.lt_trichotomy found other with hlt | heq | hlt
  · exact absurd h.free (h'.refused found h.le hlt)
  · exact heq
  · exact absurd h'.free (h.refused other h'.le hlt)

namespace Search

/-- A search that stops has gone through all candidates before the one that it stops at. -/
theorem exists_isLeast (h : Search taken base endings n rounds name) :
    ∃ found, n + rounds = found + 1 ∧ name = candidate base found ∧ IsLeast taken base endings n found := by
  induction h with
  | @stop n hfree => exact ⟨n, rfl, rfl, le_rfl, hfree, fun m hm hlt => by omega⟩
  | @next n rounds name htaken _ ih =>
    obtain ⟨found, hrounds, hname, hle, hfree, hrefused⟩ := ih
    refine ⟨found, by omega, hname, by omega, hfree, fun m hm hlt => ?_⟩
    rcases hm.eq_or_lt with rfl | hm
    · exact htaken
    · exact hrefused m hm hlt

/-- The search comes to the least free candidate one by one. -/
theorem of_isLeast (h : IsLeast taken base endings n found) :
    Search taken base endings n (found - n + 1) (candidate base found) := by
  obtain ⟨hle, hfree, hrefused⟩ := h
  induction hmore : found - n generalizing n with
  | zero =>
    obtain rfl : n = found := by omega
    exact .stop hfree
  | succ more ih =>
    have htaken := hrefused n le_rfl (by omega)
    refine .next htaken (ih (by omega) (fun m hm hlt => ?_) (by omega))
    exact hrefused m (by omega) hlt

end Search

/-- The assigned name is the least free candidate, which is among as many as there are taken names for each
    ending and one more. -/
theorem exists_assign_eq (taken : TakenNames) (base : String) (endings : List String) :
    ∃ n < taken.size * endings.length + 1, IsLeast taken base endings 0 n ∧
      (taken.assign base endings).1 = candidate base n := by
  obtain ⟨n, hname, hfree, hrefused, -⟩ := taken.assign_spec base endings
  obtain ⟨bound, hbound, hfound⟩ := taken.exists_isFree base endings
  have hn : n ≤ bound := Nat.le_of_not_lt fun hlt => hrefused bound hlt hfound
  exact ⟨n, by omega, ⟨Nat.zero_le n, hfree, fun m _ hlt => hrefused m hlt⟩, hname⟩

/-- The search for a name stops, in any case within as many rounds as there are taken names for each ending
    and one more, and gives the name that is assigned. That is the text itself if it is free with every
    ending, and otherwise the text with the least number, from 1 on, with which it is; and exactly its keys
    become taken. -/
theorem assign_least (taken : TakenNames) (base : String) (endings : List String) :
    (∃ rounds ≤ taken.size * endings.length + 1,
      Search taken base endings 0 rounds (taken.assign base endings).1) ∧
    (∀ rounds name, Search taken base endings 0 rounds name →
      rounds ≤ taken.size * endings.length + 1 ∧ name = (taken.assign base endings).1) ∧
    (IsFree taken base endings → (taken.assign base endings).1 = base) ∧
    (¬IsFree taken base endings → ∃ n, 1 ≤ n ∧ (taken.assign base endings).1 = s!"{base}_{n}" ∧
      IsFree taken s!"{base}_{n}" endings ∧
      ∀ m, 1 ≤ m → m < n → ¬IsFree taken s!"{base}_{m}" endings) ∧
    ∀ key, key ∈ (taken.assign base endings).2 ↔
      key ∈ taken ∨ ∃ ending ∈ endings, key = lower ((taken.assign base endings).1 ++ ending) := by
  obtain ⟨n, hn, hleast, hname⟩ := taken.exists_assign_eq base endings
  have hnumbered : ∀ m, 1 ≤ m → candidate base m = s!"{base}_{m}" := fun m hm => if_neg (by omega)
  refine ⟨?_, fun rounds name hsearch => ?_, fun hbase => ?_, fun hbase => ?_, fun key => ?_⟩
  · rw [hname]
    exact ⟨n + 1, hn, .of_isLeast hleast⟩
  · obtain ⟨found, hrounds, rfl, hfound⟩ := hsearch.exists_isLeast
    obtain rfl := hleast.eq hfound
    exact ⟨by omega, hname.symm⟩
  · obtain rfl : n = 0 := Nat.eq_zero_of_not_pos fun hpos => hleast.refused 0 le_rfl hpos hbase
    exact hname
  · have hpos : 1 ≤ n := by
      refine Nat.pos_of_ne_zero ?_
      rintro rfl
      exact hbase hleast.free
    refine ⟨n, hpos, hname.trans (hnumbered n hpos), hnumbered n hpos ▸ hleast.free, fun m hm hlt => ?_⟩
    rw [← hnumbered m hm]
    exact hleast.refused m (Nat.zero_le m) hlt
  · obtain ⟨k, hassigned, -, -, hkeys⟩ := taken.assign_spec base endings
    rw [hkeys, hassigned, keys, List.mem_map]
    simp only [eq_comm]

end CrudSql.TakenNames

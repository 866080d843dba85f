import CrudSql.Proofs.Token.Sql

/-! Parentheses outside quotes. A piece of a statement is neat if it is sound and closes exactly the
    parentheses that it opens; statements are put together from neat pieces and end at depth zero. -/

namespace CrudSql

namespace Token

/-- The depth behind a token. No more is closed than was opened, and a statement ends outside all
    parentheses. -/
def nest (depth : Nat) : Token → Option Nat
  | mark c =>
    if c = '(' then some (depth + 1)
    else if c = ')' then
      match depth with
      | 0 => none
      | outer + 1 => some outer
    else if c = ';' then if depth = 0 then some 0 else none
    else some depth
  | name _ | placeholder _ | word _ => some depth

/-- The depth of parentheses behind the tokens; none if they do not match. -/
def nesting (depth : Nat) (tokens : List Token) : Option Nat := tokens.foldlM nest depth

/-- At any depth, the tokens lead back to it. -/
def Level (tokens : List Token) : Prop := ∀ depth, nesting depth tokens = some depth

theorem nesting_append (depth : Nat) (a b : List Token) :
    nesting depth (a ++ b) = (nesting depth a).bind fun inner => nesting inner b :=
  List.foldlM_append

theorem Level.append {a b : List Token} (ha : Level a) (hb : Level b) : Level (a ++ b) := fun depth => by
  rw [nesting_append, ha depth]
  exact hb depth

theorem Level.between {a b inner : List Token} {k : Nat} (ha : ∀ depth, nesting depth a = some (depth + k))
    (hi : Level inner) (hb : ∀ depth, nesting (depth + k) b = some depth) : Level (a ++ (inner ++ b)) :=
  fun depth => by
    rw [nesting_append, ha, Option.bind_some, nesting_append, hi]
    exact hb depth

end Token

open Token

/-! ### Atoms -/

namespace Atom
variable {a b : List Atom} {items : List (List Atom)}

/-- Atoms that read as they stand and close every parenthesis that they open. -/
structure Neat (atoms : List Atom) : Prop where
  sound : ∀ atom ∈ atoms, atom.Sound
  apart : atoms.IsChain Apart
  level : Level (atoms.flatMap (·.tokens))

/-- Nothing runs together where the atoms meet. -/
def Meet (a b : List Atom) : Prop := ∀ x ∈ a.getLast?, ∀ y ∈ b.head?, Apart x y

instance (x y : Atom) : Decidable (Apart x y) := inferInstanceAs (Decidable (_ ∨ _))

theorem meet_of_opens {y : Atom} (hb : b.head? = some y) (hy : y.opensFree = true) : Meet a b := by
  intro x _ z hz
  cases hb.symm.trans hz
  exact Or.inr hy

theorem meet_of_ends {x : Atom} (ha : a.getLast? = some x) (hx : x.endsFree = true) : Meet a b := by
  intro z hz y _
  cases ha.symm.trans hz
  exact Or.inl hx

/-- The texts around names and numbers settle whether atoms are neat. -/
theorem neat_of_sound (hs : ∀ atom ∈ a, atom.Sound := by simp [Atom.Sound, phrases])
    (ha : a.IsChain Apart := by exact of_decide_eq_true rfl)
    (hl : Level (a.flatMap (·.tokens)) := by exact fun _ => rfl) : Neat a :=
  ⟨hs, ha, hl⟩

theorem Neat.nil : Neat [] := ⟨by simp, .nil, fun _ => rfl⟩

theorem Neat.append (ha : Neat a) (hb : Neat b) (hm : Meet a b) : Neat (a ++ b) where
  sound atom hatom := (List.mem_append.mp hatom).elim (ha.sound atom) (hb.sound atom)
  apart := ha.apart.append hb.apart hm
  level := by
    rw [List.flatMap_append]
    exact ha.level.append hb.level

theorem neat_name (text : String) : Neat [.name text] := ⟨by simp [Sound], .singleton _, fun _ => rfl⟩

theorem neat_number {value : Int} (h : 0 ≤ value) : Neat [.number value] :=
  ⟨by simpa [Sound] using h, .singleton _, fun _ => rfl⟩

theorem neat_placeholder {text : String} (h : ∀ c ∈ text.toList, isParameterChar c = true) :
    Neat [.placeholder text] :=
  ⟨by simpa [Sound] using h, .singleton _, fun _ => rfl⟩

theorem neat_fixed {text : String} (h : text ∈ phrases) (hl : Level (phrase text)) : Neat [.fixed text] :=
  ⟨by simpa [Sound] using h, .singleton _, by simpa [tokens] using hl⟩

/-- Atoms between others that open and close around them. -/
theorem Neat.enclosed {before behind : List Atom} (k : Nat) (ha : Neat a)
    (hbefore : ∀ atom ∈ before, atom.Sound := by simp [Atom.Sound, phrases])
    (hbehind : ∀ atom ∈ behind, atom.Sound := by simp [Atom.Sound, phrases])
    (hb : before.IsChain Apart := by exact of_decide_eq_true rfl)
    (he : behind.IsChain Apart := by exact of_decide_eq_true rfl)
    (hends : before.getLast?.any (·.endsFree) = true := by rfl)
    (hopens : behind.head?.any (·.opensFree) = true := by rfl)
    (hopen : ∀ depth, nesting depth (before.flatMap (·.tokens)) = some (depth + k) := by exact fun _ => rfl)
    (hclose : ∀ depth, nesting (depth + k) (behind.flatMap (·.tokens)) = some depth := by
      exact fun _ => rfl) : Neat (before ++ (a ++ behind)) where
  sound atom hatom := (List.mem_append.mp hatom).elim (hbefore atom) fun hatom =>
    (List.mem_append.mp hatom).elim (ha.sound atom) (hbehind atom)
  apart := by
    obtain ⟨x, hx, hfree⟩ := (Option.any_eq_true ..).mp hends
    obtain ⟨y, hy, hfree'⟩ := (Option.any_eq_true ..).mp hopens
    exact hb.append (ha.apart.append he (meet_of_opens hy hfree')) (meet_of_ends hx hfree)
  level := by
    rw [List.flatMap_append, List.flatMap_append]
    exact Level.between hopen ha.level hclose

theorem Neat.separated {separator : String} (h : ∀ item ∈ items, Neat item)
    (hs : separator ∈ [", ", " AND ", "."]) : Neat (separated separator items) := by
  have hfixed : Neat [fixed separator] ∧ (fixed separator).opensFree = true ∧
      (fixed separator).endsFree = true := by
    simp only [List.mem_cons, List.not_mem_nil, or_false] at hs
    rcases hs with rfl | rfl | rfl <;>
      exact ⟨neat_fixed (by simp [phrases]) (fun _ => rfl), rfl, rfl⟩
  induction items with
  | nil => exact .nil
  | cons item items ih =>
    cases items with
    | nil => simpa [Atom.separated] using h item
    | cons next items =>
      rw [separated_cons, ← List.singleton_append]
      have hrest := ih fun item hitem => h item (List.mem_cons_of_mem _ hitem)
      refine (h item List.mem_cons_self).append (hfixed.1.append hrest ?_) ?_
      · exact meet_of_ends rfl hfixed.2.2
      · exact meet_of_opens rfl hfixed.2.1

theorem Neat.separated_map {α : Type} {f : α → List Atom} {l : List α} {separator : String}
    (h : ∀ x ∈ l, Neat (f x)) (hs : separator ∈ [", ", " AND ", "."]) :
    Neat (Atom.separated separator (l.map f)) :=
  .separated (List.forall_mem_map.mpr h) hs

theorem Neat.listed (h : ∀ item ∈ items, Neat item) : Neat (listed items) := .separated h (by simp)

end Atom

/-! ### Clauses -/

namespace Sql
variable {a b sql : Sql}

/-- Pieces that read as they stand and close every parenthesis that they open. -/
structure Neat (sql : Sql) : Prop where
  sound : sql.Sound
  level : Level sql.tokens

theorem tokens_append : (a ++ b).tokens = a.tokens ++ b.tokens := List.flatMap_append

theorem Sound.append (ha : a.Sound) (hb : b.Sound) : (a ++ b).Sound :=
  fun piece hpiece => (List.mem_append.mp hpiece).elim (ha piece) (hb piece)

theorem Neat.nil : Neat [] := ⟨by simp [Sound], fun _ => rfl⟩

theorem Neat.append (ha : Neat a) (hb : Neat b) : Neat (a ++ b) where
  sound := ha.sound.append hb.sound
  level := by
    rw [tokens_append]
    exact ha.level.append hb.level

theorem Neat.flatMap {α : Type} {f : α → Sql} {l : List α} (h : ∀ x ∈ l, Neat (f x)) :
    Neat (l.flatMap f) := by
  induction l with
  | nil => exact .nil
  | cons x l ih =>
    simp only [List.forall_mem_cons] at h
    exact h.1.append (ih h.2)

theorem Neat.ite {p : Prop} [Decidable p] (ha : Neat a) (hb : Neat b) : Neat (if p then a else b) := by
  split
  · exact ha
  · exact hb

theorem neat_token {atoms : List Atom} (h : Atom.Neat atoms) : Neat [.token atoms] where
  sound := by simpa [Sound] using ⟨h.sound, h.apart⟩
  level := by simpa [tokens, Piece.tokens] using h.level

theorem neat_word (text : String) (h : text ∈ phrases := by simp [phrases])
    (hl : Level (phrase text) := by exact fun _ => rfl) : Neat (word text) :=
  neat_token (Atom.neat_fixed h hl)

theorem neat_comma : Neat comma := ⟨by simp [Sound, comma, Piece.Sound], fun _ => rfl⟩

theorem Neat.parenthesized (h : Neat sql) : Neat (parenthesized sql) where
  sound := by
    have hopen : Sound [.token [.fixed "("]] := by
      simp [Sound, Piece.Sound, Atom.Sound, phrases]
    have hclose : Sound [.mark ')'] := by
      simp [Sound, Piece.Sound]
    exact hopen.append (h.sound.append hclose)
  level := by
    have : (Sql.parenthesized sql).tokens = phrase "(" ++ (sql.tokens ++ [.mark ')']) := by
      simp [Sql.parenthesized, tokens, Piece.tokens, Atom.tokens]
    rw [this]
    exact Level.between (k := 1) (fun _ => rfl) h.level (fun _ => rfl)

theorem neat_quoted (name : String) : Neat (quoted name) := neat_token (Atom.neat_name name)

theorem neat_named (label : String) : Neat (named label) :=
  (neat_word "AS").append (neat_quoted label)

theorem neat_path (ident : Ident) : Neat (path ident) :=
  neat_token (.separated_map (fun part _ => Atom.neat_name part) (by simp))

theorem Neat.list {items : List (List Atom)} (h : ∀ item ∈ items, Atom.Neat item) : Neat (list items) :=
  neat_token (.listed h)

theorem Neat.list_map {α : Type} {f : α → List Atom} {l : List α} (h : ∀ x ∈ l, Atom.Neat (f x)) :
    Neat (Sql.list (l.map f)) :=
  .list (List.forall_mem_map.mpr h)

theorem neat_columns (fields : List Field) : Neat (columns fields) :=
  .list_map fun field _ => Atom.neat_name field.name

theorem neat_orderBy (order : List OrderField) : Neat (orderBy order) := by
  cases order with
  | nil => exact .nil
  | cons first rest =>
    refine (neat_word "ORDER BY").append (.list_map fun field _ => ?_)
    cases field.direction
    all_goals exact (Atom.neat_name _).append (Atom.neat_fixed (by simp [Direction.sql, phrases])
      fun _ => rfl) (Atom.meet_of_opens rfl rfl)

end Sql

end CrudSql

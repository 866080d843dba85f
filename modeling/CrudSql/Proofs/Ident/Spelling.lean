import Mathlib.Data.List.TakeWhile
import CrudSql.Proofs.Ident

/-! The texts that name an identifier. A text spells parts if it is made of their segments, with a dot
    between one segment and the next, and with white space around the dots and at both ends; a segment is a
    part between quotes, or a part as it is. Exactly the texts that spell parts are read as identifiers, and
    no text spells the parts of two. -/

namespace CrudSql.Ident
open Text

/-- White space alone, or nothing. -/
def IsGap (cs : List Char) : Prop := ∀ c ∈ cs, isBlank c = true

/-- A text without white space at its ends. -/
structure IsTrimmed (cs : List Char) : Prop where
  ne_nil : cs ≠ []
  first : ∀ c ∈ cs.head?, isBlank c = false
  last : ∀ c ∈ cs.getLast?, isBlank c = false

/-- The ways to write a part: between quotes, with its closing quotes doubled, or as it is. -/
inductive Segment : List Char → List Char → Prop
  | quoted {opening close : Char} {part : List Char} (hq : (opening, close) ∈ quotePairs) (hpart : part ≠ []) :
    Segment part (quoteChars opening close part)
  | bare {part : List Char} (hpart : IsTrimmed part) (hplain : ∀ c ∈ part, c ≠ '.' ∧ isQuote c = false) :
    Segment part part

/-- The ways to write parts: their segments in order, and between two of them a dot, which may have white
    space around it. -/
inductive Segments : List (List Char) → List Char → Prop
  | last {part written : List Char} (h : Segment part written) : Segments [part] written
  | dot {part written before after rest : List Char} {parts : List (List Char)} (h : Segment part written)
    (hbefore : IsGap before) (hafter : IsGap after) (hrest : Segments parts rest) :
    Segments (part :: parts) (written ++ (before ++ '.' :: (after ++ rest)))

/-- The text is a way to write the parts, with or without white space around it. -/
structure Spells (text : String) (parts : List String) : Prop where
  notMem_nul : Char.ofNat 0 ∉ text.toList
  written : ∃ front written back, IsGap front ∧ Segments (parts.map String.toList) written ∧ IsGap back ∧
    text.toList = front ++ (written ++ back)

variable {whole text : String} {cs front back part before after written rest : List Char}
  {parts : List (List Char)}

/-! ### White space -/

theorem isGap_nil : IsGap [] := List.forall_mem_nil _

theorem IsGap.append (ha : IsGap before) (hb : IsGap after) : IsGap (before ++ after) :=
  List.forall_mem_append.mpr ⟨ha, hb⟩

theorem IsGap.dropWhile_append (h : IsGap front) (cs : List Char) :
    (front ++ cs).dropWhile isBlank = cs.dropWhile isBlank :=
  List.dropWhile_append_of_pos h

theorem isGap_takeWhile (cs : List Char) : IsGap (cs.takeWhile isBlank) := fun _ => List.mem_takeWhile_imp

/-- What is trimmed from a text is white space. -/
theorem exists_trimChars (cs : List Char) :
    ∃ front back, IsGap front ∧ IsGap back ∧ cs = front ++ (trimChars cs ++ back) := by
  refine ⟨cs.takeWhile isBlank, ((cs.dropWhile isBlank).reverse.takeWhile isBlank).reverse,
    isGap_takeWhile cs, fun c hc => isGap_takeWhile _ c (List.mem_reverse.mp hc), ?_⟩
  rw [trimChars, ← List.reverse_append, List.takeWhile_append_dropWhile, List.reverse_reverse,
    List.takeWhile_append_dropWhile]

/-- White space around a text is trimmed, and nothing more. -/
theorem IsTrimmed.trimChars_eq (h : IsTrimmed cs) (hfront : IsGap front) (hback : IsGap back) :
    trimChars (front ++ (cs ++ back)) = cs := by
  have hhead : ∀ c ∈ (cs ++ back).head?, isBlank c = false := by
    rw [List.head?_append_of_ne_nil _ h.ne_nil]
    exact h.first
  have hback : ∀ c ∈ back.reverse, isBlank c = true := fun c hc => hback c (List.mem_reverse.mp hc)
  rw [trimChars, hfront.dropWhile_append, dropWhile_isBlank_of_head hhead, List.reverse_append,
    List.dropWhile_append_of_pos hback, dropWhile_isBlank_of_head (by simpa using h.last), List.reverse_reverse]

theorem isTrimmed_trimChars (h : trimChars cs ≠ []) : IsTrimmed (trimChars cs) :=
  ⟨h, fun _ => isBlank_of_head?_trimChars, fun _ => isBlank_of_getLast?_trimChars⟩

theorem IsTrimmed.between (ha : IsTrimmed front) (hb : IsTrimmed back) (cs : List Char) :
    IsTrimmed (front ++ (cs ++ back)) where
  ne_nil := List.append_ne_nil_of_left_ne_nil ha.ne_nil _
  first := by
    rw [List.head?_append_of_ne_nil _ ha.ne_nil]
    exact ha.first
  last := by
    rw [← List.append_assoc, List.getLast?_append_of_ne_nil _ hb.ne_nil]
    exact hb.last

theorem Segment.isTrimmed (h : Segment part written) : IsTrimmed written := by
  cases h with
  | quoted hq hpart =>
    obtain ⟨-, hopening, hclose, -⟩ := known_quotes hq
    refine ⟨List.cons_ne_nil _ _, fun c hc => ?_, fun c hc => ?_⟩
    · cases hc
      exact hopening
    · rw [quoteChars, ← List.cons_append, List.getLast?_concat] at hc
      cases hc
      exact hclose
  | bare hpart => exact hpart

theorem Segments.isTrimmed (h : Segments parts written) : IsTrimmed written := by
  induction h with
  | last h => exact h.isTrimmed
  | @dot part written before after rest parts h _ _ _ ih =>
    have hbetween := h.isTrimmed.between ih (before ++ '.' :: after)
    rwa [List.append_assoc, List.cons_append] at hbetween

/-! ### What is spelled is read -/

theorem closingQuote?_of_not_isQuote {c : Char} (h : isQuote c = false) : closingQuote? c = none := by
  rw [closingQuote?, Option.map_eq_none_iff, List.find?_eq_none]
  intro pair hpair hopening
  have hquote := List.any_eq_false.mp h pair hpair
  simp [hopening] at hquote

theorem isQuote_of_isBlank {c : Char} (h : isBlank c = true) : isQuote c = false := by
  have hall : ∀ pair ∈ quotePairs, isBlank pair.1 = false ∧ isBlank pair.2 = false := by
    decide
  refine List.any_eq_false.mpr fun pair hpair hquote => ?_
  obtain ⟨hopening, hclose⟩ := hall pair hpair
  rcases Bool.or_eq_true_iff.mp hquote with heq | heq
  · rw [beq_iff_eq.mp heq, h] at hopening
    cases hopening
  · rw [beq_iff_eq.mp heq, h] at hclose
    cases hclose

/-- A text that begins with a dot, if it has anything. -/
def StartsDotted (rest : List Char) : Prop := ∀ c ∈ rest.head?, c = '.'

theorem StartsDotted.dropWhile_eq (h : StartsDotted rest) : rest.dropWhile isBlank = rest :=
  dropWhile_isBlank_of_head fun c hc => by
    rw [h c hc]
    rfl

theorem barePart_of_plain (hpart : IsTrimmed part) (hplain : ∀ c ∈ part, c ≠ '.' ∧ isQuote c = false)
    (hbefore : IsGap before) (hrest : StartsDotted rest) :
    barePart whole (part ++ (before ++ rest)) = .ok (part, rest) := by
  have hrun : ∀ c ∈ part ++ before, decide (c ≠ '.') = true := by
    refine List.forall_mem_append.mpr ⟨fun c hc => decide_eq_true (hplain c hc).1, fun c hc => ?_⟩
    refine decide_eq_true ?_
    rintro rfl
    cases hbefore _ hc
  have hstop : rest.takeWhile (· ≠ '.') = [] ∧ rest.dropWhile (· ≠ '.') = rest := by
    cases rest with
    | nil => exact ⟨rfl, rfl⟩
    | cons c rest =>
      obtain rfl := hrest c rfl
      exact ⟨rfl, rfl⟩
  have hquote : (part ++ before).find? isQuote = none := by
    refine List.find?_eq_none.mpr (List.forall_mem_append.mpr ⟨fun c hc => ?_, fun c hc => ?_⟩)
    · simp [(hplain c hc).2]
    · simp [isQuote_of_isBlank (hbefore c hc)]
  have htrim : trimChars (part ++ before) = part := hpart.trimChars_eq isGap_nil hbefore
  rw [barePart, ← List.append_assoc, List.takeWhile_append_of_pos hrun, List.dropWhile_append_of_pos hrun,
    hstop.1, hstop.2, List.append_nil]
  simp only [hquote, htrim, if_neg hpart.ne_nil]

/-- A segment is read as its part, up to the next dot or the end. -/
theorem firstPart_of_segment (whole : String) (h : Segment part written) (hbefore : IsGap before)
    (hrest : StartsDotted rest) :
    ∃ after, firstPart whole ((written ++ (before ++ rest)).dropWhile isBlank) = .ok (part, after) ∧
      after.dropWhile isBlank = rest := by
  cases h with
  | quoted hq hpart =>
    obtain ⟨-, -, hblank, hdot, -⟩ := known_quotes hq
    refine ⟨before ++ rest, firstPart_quoteChars hq hpart fun hclose => ?_, ?_⟩
    · cases before with
      | nil => exact hdot (hrest _ hclose)
      | cons c before =>
        cases hclose
        rw [hbefore _ List.mem_cons_self] at hblank
        cases hblank
    · rw [hbefore.dropWhile_append, hrest.dropWhile_eq]
  | bare hpart hplain =>
    refine ⟨rest, ?_, hrest.dropWhile_eq⟩
    obtain ⟨c, tail, rfl⟩ := List.exists_cons_of_ne_nil hpart.ne_nil
    have hquote : closingQuote? c = none := closingQuote?_of_not_isQuote (hplain c List.mem_cons_self).2
    have hstart : ∀ d ∈ (c :: tail ++ (before ++ rest)).head?, isBlank d = false := fun d hd => hpart.first d hd
    rw [dropWhile_isBlank_of_head hstart, List.cons_append, firstPart, hquote]
    exact barePart_of_plain hpart hplain hbefore hrest

theorem readParts_of_segments (h : Segments parts written) (hfront : IsGap front) (hback : IsGap back) :
    readParts whole (front ++ (written ++ back)) = .ok parts := by
  induction h generalizing front with
  | @last part written h =>
    have hend : StartsDotted [] := fun _ hc => nomatch hc
    obtain ⟨after, hfirst, hafter⟩ := firstPart_of_segment whole h hback hend
    rw [List.append_nil, ← hfront.dropWhile_append] at hfirst
    exact readParts_last hfirst hafter
  | @dot part written before after rest parts h hbefore hafter hrest ih =>
    have hdot : StartsDotted ('.' :: (after ++ (rest ++ back))) := fun c hc => (Option.some.inj hc).symm
    obtain ⟨behind, hfirst, hbehind⟩ := firstPart_of_segment whole h hbefore hdot
    rw [← hfront.dropWhile_append] at hfirst
    have hmore : after ++ (rest ++ back) ≠ [] :=
      List.append_ne_nil_of_right_ne_nil _ (List.append_ne_nil_of_left_ne_nil hrest.isTrimmed.ne_nil _)
    have hread := readParts_dot hfirst hbehind hmore
    rw [ih hafter, Except.map] at hread
    simpa using hread

/-! ### What is read is spelled -/

theorem exists_segment_of_barePart (hstart : ∀ c ∈ cs.head?, isBlank c = false)
    (h : barePart whole cs = .ok (part, after)) :
    ∃ gap, Segment part part ∧ IsGap gap ∧ cs = part ++ (gap ++ after) := by
  simp only [barePart] at h
  split at h
  · cases h
  · rename_i hquote
    split at h
    · cases h
    · rename_i hne
      cases h
      obtain ⟨front, gap, hfront, hgap, hrun⟩ := exists_trimChars (cs.takeWhile (· ≠ '.'))
      have hcs := List.takeWhile_append_dropWhile (p := (· ≠ '.')) (l := cs)
      -- The text begins with something else than white space, so nothing was trimmed at the start.
      have hnone : front = [] := by
        cases front with
        | nil => rfl
        | cons c front =>
          have hc : isBlank c = false := hstart c (by rw [← hcs, hrun]; rfl)
          rw [hfront c List.mem_cons_self] at hc
          cases hc
      rw [hnone, List.nil_append] at hrun
      refine ⟨gap, .bare (isTrimmed_trimChars hne) fun c hc => ?_, hgap, ?_⟩
      · have hmem := (trimChars_sublist _).subset hc
        have hnodot : decide (c ≠ '.') = true := List.mem_takeWhile_imp (p := (· ≠ '.')) hmem
        refine ⟨of_decide_eq_true hnodot, ?_⟩
        simpa using List.find?_eq_none.mp hquote c hmem
      · rw [← List.append_assoc, ← hrun, hcs]

theorem exists_segment_of_firstPart (hstart : ∀ c ∈ cs.head?, isBlank c = false)
    (h : firstPart whole cs = .ok (part, after)) :
    ∃ written gap, Segment part written ∧ IsGap gap ∧ cs = written ++ (gap ++ after) := by
  have hbare : ∀ {cs : List Char}, (∀ c ∈ cs.head?, isBlank c = false) → barePart whole cs = .ok (part, after) →
      ∃ written gap, Segment part written ∧ IsGap gap ∧ cs = written ++ (gap ++ after) := fun hstart h =>
    ⟨part, exists_segment_of_barePart hstart h⟩
  cases cs with
  | nil => exact hbare hstart h
  | cons c tail =>
    cases hclose : closingQuote? c with
    | none =>
      rw [firstPart, hclose] at h
      exact hbare hstart h
    | some close =>
      simp only [firstPart, hclose] at h
      split at h
      · cases h
      · cases h
      · rename_i hempty hread
        cases h
        refine ⟨quoteChars c close part, [], .quoted (mem_quotePairs hclose) ?_, isGap_nil, ?_⟩
        · rintro rfl
          exact hempty rfl
        · simp [quoteChars, eq_of_quotedName? hread]

theorem exists_segments_of_readParts (h : readParts whole cs = .ok parts) :
    ∃ front written back, IsGap front ∧ Segments parts written ∧ IsGap back ∧ cs = front ++ (written ++ back) := by
  have hsplit : ∀ cs : List Char, cs = cs.takeWhile isBlank ++ cs.dropWhile isBlank := fun cs =>
    List.takeWhile_append_dropWhile.symm
  have hstart : ∀ cs : List Char, ∀ c ∈ (cs.dropWhile isBlank).head?, isBlank c = false := fun cs _ =>
    isBlank_of_head?_dropWhile
  fun_induction readParts whole cs generalizing parts with
  | case1 | case3 | case4 | case5 => cases h
  | case2 cs part after hfirst hfollowing =>
    cases h
    obtain ⟨written, gap, hsegment, hgap, hcs⟩ := exists_segment_of_firstPart (hstart cs) hfirst
    have hafter : IsGap after := by
      rw [hsplit after, hfollowing, List.append_nil]
      exact isGap_takeWhile after
    exact ⟨_, written, gap ++ after, isGap_takeWhile cs, .last hsegment, hgap.append hafter,
      (hsplit cs).trans (congrArg _ hcs)⟩
  | case6 cs part after hfirst c rest hfollowing hdot _ parts _ ih =>
    cases h
    obtain ⟨written, gap, hsegment, hgap, hcs⟩ := exists_segment_of_firstPart (hstart cs) hfirst
    obtain ⟨front, others, back, hfront, hothers, hback, hrest⟩ := ih ‹_›
    have hdot : c = '.' := Decidable.not_not.mp hdot
    have hafter : after = after.takeWhile isBlank ++ '.' :: (front ++ (others ++ back)) := by
      rw [← hrest, ← hdot, ← hfollowing]
      exact hsplit after
    refine ⟨_, _, back, isGap_takeWhile cs,
      .dot hsegment (hgap.append (isGap_takeWhile after)) hfront hothers, hback, ?_⟩
    calc cs = cs.takeWhile isBlank ++ (written ++ (gap ++ after)) := (hsplit cs).trans (congrArg _ hcs)
      _ = cs.takeWhile isBlank ++ (written ++ (gap ++
          (after.takeWhile isBlank ++ '.' :: (front ++ (others ++ back))))) := by rw [← hafter]
      _ = _ := by simp

/-! ### Identifiers -/

theorem Spells.parse_eq {parts : List String} (h : Spells text parts) : parse text = .ok ⟨parts⟩ := by
  obtain ⟨hnul, front, written, back, hfront, hwritten, hback, htext⟩ := h
  have htrim : trimChars text.toList = written := by
    rw [htext, hwritten.isTrimmed.trimChars_eq hfront hback]
  have hcontent : content text = .ok written := by
    refine content_eq_ok_iff.mpr ⟨htrim.symm, hwritten.isTrimmed.ne_nil, fun hmem => hnul ?_⟩
    exact (trimChars_sublist text.toList).subset (htrim ▸ hmem)
  have hread : readParts (String.ofList written) written = .ok (parts.map String.toList) := by
    simpa using readParts_of_segments hwritten isGap_nil isGap_nil
  simp only [parse, hcontent, bind_eq_ok, pure_eq_ok]
  exact ⟨_, rfl, _, hread, by simp⟩

theorem spells_of_parse {ident : Ident} (h : parse text = .ok ident) : Spells text ident.parts := by
  simp only [parse, bind_eq_ok, pure_eq_ok] at h
  obtain ⟨cs, hcs, parts, hparts, rfl⟩ := h
  obtain ⟨rfl, -, hnul⟩ := content_eq_ok_iff.mp hcs
  obtain ⟨front, written, back, hfront, hwritten, hback, htrimmed⟩ := exists_segments_of_readParts hparts
  obtain ⟨ahead, behind, hahead, hbehind, htext⟩ := exists_trimChars text.toList
  have hblank : ∀ {gap : List Char}, IsGap gap → Char.ofNat 0 ∉ gap := fun hgap hmem => by
    cases hgap _ hmem
  refine ⟨?_, ahead ++ front, written, back ++ behind, hahead.append hfront, ?_, hback.append hbehind, ?_⟩
  · rw [htext, List.mem_append, List.mem_append]
    exact fun hmem => hmem.elim (hblank hahead) fun hmem => hmem.elim hnul (hblank hbehind)
  · rw [List.map_map]
    simpa [Function.comp_def] using hwritten
  · rw [htext, htrimmed]
    simp

/-- A text is read as an identifier exactly if it spells the parts of the identifier. It spells the parts
    of one at most, and a text that spells none is refused. -/
theorem parse_iff_spells (text : String) :
    (∀ ident, parse text = .ok ident ↔ Spells text ident.parts) ∧
      (∀ parts other, Spells text parts → Spells text other → parts = other) ∧
        ((∃ fault, parse text = .error fault) ↔ ∀ parts, ¬Spells text parts) := by
  refine ⟨fun ident => ⟨spells_of_parse, Spells.parse_eq⟩, fun parts other hparts hother => ?_, ?_⟩
  · have hsame := hparts.parse_eq.symm.trans hother.parse_eq
    cases hsame
    rfl
  · constructor
    · rintro ⟨fault, hfault⟩ parts hparts
      rw [hparts.parse_eq] at hfault
      cases hfault
    · intro hnone
      cases hread : parse text with
      | error fault => exact ⟨fault, rfl⟩
      | ok ident => exact absurd (spells_of_parse hread) (hnone ident.parts)

end CrudSql.Ident

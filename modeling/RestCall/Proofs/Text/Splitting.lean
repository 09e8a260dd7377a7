import RestCall.Text.Blank
/-!
# RestCall — splitting what has been joined

A separator ends a piece wherever it stands (`splitOn_append_cons`). So a text
that joins others is split into the pieces of these, one after another, and
pieces in which the separator does not occur are found again.
-/

namespace RestCall

namespace Text

variable {sep : Char} {cs rest : List Char} {p : Char → Bool}

theorem splitFirst_append (h : ∀ c ∈ cs, p c = false) (hsep : p sep = true) :
    splitFirst p (cs ++ sep :: rest) = some (cs, rest) := by
  induction cs with
  | nil => rw [List.nil_append, splitFirst, if_pos hsep]
  | cons c cs ih =>
    rw [List.forall_mem_cons] at h
    rw [List.cons_append, splitFirst, if_neg (by simp [h.1]), ih h.2]
    rfl

/-- A text is cut at the first separator. -/
theorem splitFirst_beq_append (h : sep ∉ cs) :
    splitFirst (· == sep) (cs ++ sep :: rest) = some (cs, rest) :=
  splitFirst_append (fun _ hc => beq_eq_false_iff_ne.2 fun heq => h (heq ▸ hc))
    (beq_self_eq_true sep)

/-- What comes before the first separator is dropped with nothing left of it. -/
theorem dropWhile_append_of_not_mem (h : sep ∉ cs) :
    (cs ++ rest).dropWhile (· != sep) = rest.dropWhile (· != sep) :=
  List.dropWhile_append_of_pos fun _ hc => bne_iff_ne.2 fun heq => h (heq ▸ hc)

theorem splitFirst_eq_none_iff : splitFirst p cs = none ↔ ∀ c ∈ cs, p c = false := by
  induction cs with
  | nil => exact ⟨fun _ c hc => absurd hc List.not_mem_nil, fun _ => rfl⟩
  | cons c cs ih =>
    rw [List.forall_mem_cons, ← ih, splitFirst]
    split
    · rename_i hc
      simp [hc]
    · rename_i hc
      rw [Option.map_eq_none_iff, and_iff_right (Bool.eq_false_iff.2 hc)]

/-- **A text that is cut** is what stands before and behind the first
character of the class. -/
theorem splitFirst_eq_some {front : List Char} (h : splitFirst p cs = some (front, rest)) :
    ∃ mark, p mark = true ∧ cs = front ++ mark :: rest ∧ ∀ c ∈ front, p c = false := by
  induction cs generalizing front with
  | nil => cases h
  | cons c cs ih =>
    rw [splitFirst] at h
    split at h
    · rename_i hc
      cases h
      exact ⟨c, hc, rfl, fun x hx => absurd hx List.not_mem_nil⟩
    · rename_i hc
      obtain ⟨⟨before, after⟩, hsplit, heq⟩ := Option.map_eq_some_iff.1 h
      cases heq
      obtain ⟨mark, hmark, rfl, hbefore⟩ := ih hsplit
      exact ⟨mark, hmark, rfl, List.forall_mem_cons.2 ⟨Bool.eq_false_iff.2 hc, hbefore⟩⟩

/-- What follows an opening is what stands behind it. -/
theorem after?_eq_some {opening : List Char} (h : after? opening cs = some rest) :
    cs = opening ++ rest := by
  induction opening generalizing cs with
  | nil => exact Option.some.inj h
  | cons a opening ih =>
    cases cs with
    | nil => cases h
    | cons c cs =>
      rw [after?] at h
      split at h
      · rename_i heq
        rw [heq, ih h, List.cons_append]
      · cases h

theorem splitOn_of_not_mem (h : sep ∉ cs) : splitOn sep cs = [cs] := by
  induction cs with
  | nil => rfl
  | cons c cs ih =>
    rw [List.mem_cons, not_or] at h
    rw [splitOn, if_neg (Ne.symm h.1), ih h.2]

theorem splitOn_ne_nil (sep : Char) (cs : List Char) : splitOn sep cs ≠ [] := by
  cases cs with
  | nil => exact List.cons_ne_nil _ _
  | cons c cs =>
    rw [splitOn]
    split
    · exact List.cons_ne_nil _ _
    · split <;> exact List.cons_ne_nil _ _

theorem splitOn_cons_self (rest : List Char) : splitOn sep (sep :: rest) = [] :: splitOn sep rest :=
  if_pos rfl

/-- **A character that is no separator** goes on with the first piece. -/
theorem splitOn_cons_of_ne {c : Char} (hc : c ≠ sep) (cs : List Char) :
    ∃ piece pieces, splitOn sep cs = piece :: pieces ∧
      splitOn sep (c :: cs) = (c :: piece) :: pieces := by
  obtain ⟨piece, pieces, hpieces⟩ := List.exists_cons_of_ne_nil (splitOn_ne_nil sep cs)
  exact ⟨piece, pieces, hpieces, by rw [splitOn, if_neg hc, hpieces]⟩

/-- **The pieces of a text** are those that any list has at a separator. -/
theorem splitOn_eq (sep : Char) (cs : List Char) : splitOn sep cs = cs.splitOn sep := by
  induction cs with
  | nil => exact (List.splitOn_nil sep).symm
  | cons c cs ih =>
    rw [List.splitOn_eq_splitOnP, List.splitOnP_cons_eq_if_modifyHead, ← List.splitOn_eq_splitOnP,
      ← ih]
    by_cases hc : c = sep
    · rw [hc, splitOn_cons_self, if_pos (beq_self_eq_true sep)]
    · obtain ⟨piece, pieces, hpieces, hcons⟩ := splitOn_cons_of_ne hc cs
      rw [hcons, hpieces, if_neg (mt beq_iff_eq.1 hc), List.modifyHead_cons]

/-- **A separator ends a piece**, whatever stands on either side. -/
theorem splitOn_append_cons : splitOn sep (cs ++ sep :: rest) =
    splitOn sep cs ++ splitOn sep rest := by
  induction cs with
  | nil => exact splitOn_cons_self rest
  | cons c cs ih =>
    rw [List.cons_append]
    by_cases hc : c = sep
    · rw [hc, splitOn_cons_self, ih, splitOn_cons_self, List.cons_append]
    · obtain ⟨piece, pieces, hpieces, hcons⟩ := splitOn_cons_of_ne hc cs
      rw [splitOn, if_neg hc, ih, hcons, hpieces, List.cons_append, List.cons_append]

theorem splitOn_append (h : sep ∉ cs) :
    splitOn sep (cs ++ sep :: rest) = cs :: splitOn sep rest := by
  rw [splitOn_append_cons, splitOn_of_not_mem h, List.singleton_append]

/-- **Without a separator** what is appended goes to the last piece. -/
theorem splitOn_append_of_not_mem (h : sep ∉ rest) (cs : List Char) :
    ∃ front last, splitOn sep cs = front ++ [last] ∧
      splitOn sep (cs ++ rest) = front ++ [last ++ rest] := by
  induction cs with
  | nil => exact ⟨[], [], rfl, splitOn_of_not_mem h⟩
  | cons c cs ih =>
    obtain ⟨front, last, hsplit, happend⟩ := ih
    rw [List.cons_append]
    by_cases hc : c = sep
    · refine ⟨[] :: front, last, ?_, ?_⟩
      · rw [hc, splitOn_cons_self, hsplit, List.cons_append]
      · rw [hc, splitOn_cons_self, happend, List.cons_append]
    · rw [splitOn, splitOn, if_neg hc, if_neg hc, hsplit, happend]
      -- the first piece grows, and it may be the last one
      cases front with
      | nil => exact ⟨[], c :: last, rfl, rfl⟩
      | cons piece front => exact ⟨(c :: piece) :: front, last, rfl, rfl⟩

/-- **Pieces are free** of the separator. -/
theorem not_mem_of_mem_splitOn {piece : List Char} (h : piece ∈ splitOn sep cs) : sep ∉ piece := by
  induction cs generalizing piece with
  | nil =>
    obtain rfl := List.mem_singleton.1 h
    exact List.not_mem_nil
  | cons c cs ih =>
    by_cases hc : c = sep
    · rw [hc, splitOn_cons_self] at h
      rcases List.mem_cons.1 h with rfl | hrest
      · exact List.not_mem_nil
      · exact ih hrest
    · obtain ⟨first, pieces, hpieces, hcons⟩ := splitOn_cons_of_ne hc cs
      rw [hcons] at h
      rcases List.mem_cons.1 h with rfl | hrest
      · rw [List.mem_cons, not_or]
        exact ⟨Ne.symm hc, ih (by rw [hpieces]; exact List.mem_cons_self)⟩
      · exact ih (by rw [hpieces]; exact List.mem_cons_of_mem _ hrest)

/-- There is one piece more than there are separators. -/
theorem length_splitOn (sep : Char) (cs : List Char) :
    (splitOn sep cs).length = cs.count sep + 1 := by
  induction cs with
  | nil => rfl
  | cons c cs ih =>
    by_cases hc : c = sep
    · rw [hc, splitOn_cons_self, List.length_cons, ih, List.count_cons_self]
    · obtain ⟨piece, pieces, hpieces, hcons⟩ := splitOn_cons_of_ne hc cs
      rw [hcons, List.length_cons, List.count_cons_of_ne hc, ← ih, hpieces, List.length_cons]

/-- **A joined text** has the pieces of what it joins, in order. -/
theorem splitOn_join_flatMap {pieces : List String} (hne : pieces ≠ []) :
    splitOn sep (join (String.singleton sep) pieces).toList =
      pieces.flatMap fun piece => splitOn sep piece.toList := by
  induction pieces with
  | nil => exact absurd rfl hne
  | cons piece pieces ih =>
    cases pieces with
    | nil => rw [join, List.flatMap_singleton]
    | cons next pieces =>
      have hjoin : (join (String.singleton sep) (piece :: next :: pieces)).toList =
          piece.toList ++ sep :: (join (String.singleton sep) (next :: pieces)).toList := by
        rw [join, String.toList_append, String.toList_append, String.toList_singleton,
          List.append_assoc, List.singleton_append]
        exact List.cons_ne_nil next pieces
      rw [hjoin, splitOn_append_cons, ih (List.cons_ne_nil next pieces)]
      rfl

/-- **Joined pieces are found again.** -/
theorem splitOn_join {pieces : List String} (hne : pieces ≠ [])
    (h : ∀ piece ∈ pieces, sep ∉ piece.toList) :
    splitOn sep (join (String.singleton sep) pieces).toList = pieces.map String.toList := by
  have hsingle : ∀ piece ∈ pieces, splitOn sep piece.toList = [piece.toList] :=
    fun piece hpiece => splitOn_of_not_mem (h piece hpiece)
  rw [splitOn_join_flatMap hne, List.flatMap_def, List.map_congr_left hsingle, ← List.flatMap_def,
    List.map_eq_flatMap]

/-- **A joined text** has the characters of its pieces, beside the separator. -/
theorem mem_toList_join_iff {c : Char} {between : String} (hc : c ∉ between.toList)
    {pieces : List String} :
    c ∈ (join between pieces).toList ↔ ∃ piece ∈ pieces, c ∈ piece.toList := by
  fun_induction join between pieces with
  | case1 => simp
  | case2 piece => simp
  | case3 piece rest _ ih =>
    simp only [String.toList_append, List.mem_append, ih, hc, or_false, List.mem_cons,
      exists_eq_or_imp]

theorem toList_join_empty (pieces : List String) :
    (join "" pieces).toList = pieces.flatMap String.toList := by
  fun_induction join "" pieces with
  | case1 => rfl
  | case2 piece => simp
  | case3 piece rest _ ih => simp [ih]

theorem join_empty_cons (piece : String) (pieces : List String) :
    join "" (piece :: pieces) = piece ++ join "" pieces := by
  rw [← String.toList_inj, String.toList_append, toList_join_empty, toList_join_empty,
    List.flatMap_cons]

/-- There is one piece more than there are separators. -/
theorem length_splitOnP : (cs.splitOnP p).length = (cs.filter p).length + 1 := by
  induction cs with
  | nil => rfl
  | cons c cs ih =>
    rw [List.splitOnP_cons_eq_if_modifyHead, List.filter_cons]
    split
    · rw [List.length_cons, List.length_cons, ih]
    · rw [List.length_modifyHead, ih]

end Text

end RestCall

import RestCall.Proofs.Operation.Registration
/-!
# RestCall — merging one catalogue into another

A catalogue gives its operations in an order that is not its own to choose. A
merge enters them one after another and stops at the first whose id is taken:
then those before it have been entered (`extend_of_taken`), and how many these
are depends on the order. So a merge succeeds exactly when the two catalogues
share no id, but one that fails is undone in every order only when there was
nothing to enter (`extend_merges`).
-/

namespace RestCall

namespace Catalogue

variable {a b c : Catalogue} {o : Operation} {order front after : List Operation}
variable {fault : DeclarationFault}

/-- The operations of a catalogue, each once, in some order. -/
def Gives (b : Catalogue) (order : List Operation) : Prop := order.Perm b.operations

theorem Gives.nodup (h : b.Gives order) (hb : b.ids.Nodup) : (order.map Operation.id).Nodup :=
  (h.map Operation.id).nodup_iff.2 hb

theorem Gives.mem_ids (h : b.Gives order) (ho : o ∈ order) : o.id ∈ b.ids :=
  List.mem_map_of_mem (h.mem_iff.1 ho)

/-- **Any operation of a catalogue** may be given first. -/
theorem exists_gives_cons (ho : o ∈ b.operations) : ∃ rest, b.Gives (o :: rest) := by
  obtain ⟨front, back, hsplit⟩ := List.append_of_mem ho
  refine ⟨front ++ back, ?_⟩
  rw [Gives, hsplit]
  exact List.perm_middle.symm

/-! ## What a merge enters -/

/-- **Operations whose ids are free** are entered before all that follow. -/
theorem registerUpTo_append (hfront : (front.map Operation.id).Nodup)
    (hfree : ∀ o ∈ front, o.id ∉ c.ids) (rest : List Operation) :
    c.registerUpTo (front ++ rest) = (⟨c.operations ++ front⟩ : Catalogue).registerUpTo rest := by
  induction front generalizing c with
  | nil => rw [List.nil_append, List.append_nil]
  | cons o front ih =>
    rw [List.map_cons, List.nodup_cons] at hfront
    rw [List.forall_mem_cons] at hfree
    -- the operation takes its own id, and that is none of those that follow
    have hstill : ∀ x ∈ front, x.id ∉ (⟨c.operations ++ [o]⟩ : Catalogue).ids := by
      intro x hx hmem
      rw [ids_append, List.mem_append, List.map_singleton, List.mem_singleton] at hmem
      rcases hmem with hmem | heq
      · exact hfree.2 x hx hmem
      · exact hfront.1 (heq ▸ List.mem_map_of_mem hx)
    rw [List.cons_append, registerUpTo, register_of_not_mem hfree.1]
    dsimp only
    rw [ih hfront.2 hstill, List.append_assoc, List.singleton_append]

theorem extend_of_free (horder : (order.map Operation.id).Nodup)
    (hfree : ∀ o ∈ order, o.id ∉ a.ids) :
    a.extend ⟨order⟩ = (⟨a.operations ++ order⟩, none) := by
  have h := registerUpTo_append horder hfree []
  rw [List.append_nil] at h
  rw [extend, h, registerUpTo]

/-- **A merge that meets a taken id** has entered what was given before it. -/
theorem extend_of_taken (horder : ((front ++ o :: after).map Operation.id).Nodup)
    (hfree : ∀ x ∈ front, x.id ∉ a.ids) (ho : o.id ∈ a.ids) :
    a.extend ⟨front ++ o :: after⟩ =
      (⟨a.operations ++ front⟩, some (.duplicateOperation o.id)) := by
  have hfront : (front.map Operation.id).Nodup := by
    rw [List.map_append] at horder
    exact horder.of_append_left
  have hmem : o.id ∈ (⟨a.operations ++ front⟩ : Catalogue).ids := by
    rw [ids_append]
    exact List.mem_append_left _ ho
  rw [extend, registerUpTo_append hfront hfree, registerUpTo, register_of_mem hmem]

/-- What is given has only free ids, or there is a first taken one. -/
theorem free_or_taken (a : Catalogue) (order : List Operation) :
    (∀ o ∈ order, o.id ∉ a.ids) ∨ ∃ front o after, order = front ++ o :: after ∧
      (∀ x ∈ front, x.id ∉ a.ids) ∧ o.id ∈ a.ids := by
  cases hfind : order.find? fun o => decide (o.id ∈ a.ids) with
  | none =>
    left
    simpa using List.find?_eq_none.1 hfind
  | some o =>
    right
    obtain ⟨ho, front, after, hsplit, hfront⟩ := List.find?_eq_some_iff_append.1 hfind
    exact ⟨front, o, after, hsplit, by simpa using hfront, of_decide_eq_true ho⟩

theorem Gives.free_iff (h : b.Gives order) :
    (∀ o ∈ order, o.id ∉ a.ids) ↔ a.ids.Disjoint b.ids := by
  have hids : ∀ id, id ∈ b.ids ↔ ∃ o ∈ order, o.id = id := by
    intro id
    rw [ids, ← (h.map Operation.id).mem_iff, List.mem_map]
  constructor
  · intro hfree id ha hb
    obtain ⟨o, ho, rfl⟩ := (hids id).1 hb
    exact hfree o ho ha
  · intro hdisjoint o ho ha
    exact hdisjoint ha (h.mem_ids ho)

/-! ## All or nothing -/

/-- **A merge succeeds** when the catalogues share no id. -/
theorem extend_succeeds_iff (hb : b.ids.Nodup) (h : b.Gives order) :
    (a.extend ⟨order⟩).2 = none ↔ a.ids.Disjoint b.ids := by
  rw [← h.free_iff]
  rcases free_or_taken a order with hfree | ⟨front, o, after, rfl, hfront, ho⟩
  · rw [extend_of_free (h.nodup hb) hfree]
    exact iff_of_true rfl hfree
  · rw [extend_of_taken (h.nodup hb) hfront ho]
    exact iff_of_false nofun fun hfree => hfree o (by simp) ho

/-- **A merge that fails** names an id that both catalogues have, and has
entered what was given before it. -/
theorem exists_of_extend_refused (hb : b.ids.Nodup) (h : b.Gives order)
    (hrefused : (a.extend ⟨order⟩).2 = some fault) :
    ∃ front o after, order = front ++ o :: after ∧ (∀ x ∈ front, x.id ∉ a.ids) ∧
      o.id ∈ a.ids ∧ o.id ∈ b.ids ∧ fault = .duplicateOperation o.id ∧
      (a.extend ⟨order⟩).1 = ⟨a.operations ++ front⟩ := by
  rcases free_or_taken a order with hfree | ⟨front, o, after, rfl, hfront, ho⟩
  · rw [extend_of_free (h.nodup hb) hfree] at hrefused
    cases hrefused
  · have hextend := extend_of_taken (h.nodup hb) hfront ho
    rw [hextend] at hrefused ⊢
    exact ⟨front, o, after, rfl, hfront, ho, h.mem_ids (by simp), (Option.some.inj hrefused).symm,
      rfl⟩

/-- **A merge that fails is undone in every order** only when nothing could
have been entered before the failure. -/
theorem undone_iff (hb : b.ids.Nodup) :
    (∀ order, b.Gives order → (a.extend ⟨order⟩).2 ≠ none → (a.extend ⟨order⟩).1 = a) ↔
      a.ids.Disjoint b.ids ∨ b.ids ⊆ a.ids := by
  constructor
  · intro hundone
    by_contra hcon
    rw [not_or] at hcon
    obtain ⟨hshared, hmore⟩ := hcon
    obtain ⟨id, hid, hnew⟩ : ∃ id ∈ b.ids, id ∉ a.ids := by simpa [List.subset_def] using hmore
    obtain ⟨o, ho, rfl⟩ := List.mem_map.1 hid
    -- given first, the operation is entered before the merge fails
    obtain ⟨rest, hgives⟩ := exists_gives_cons ho
    have hrefused : (a.extend ⟨o :: rest⟩).2 ≠ none :=
      mt (extend_succeeds_iff hb hgives).1 hshared
    obtain ⟨fault, hfault⟩ := Option.ne_none_iff_exists'.1 hrefused
    obtain ⟨front, taken, after, hsplit, -, htaken, -, -, hentered⟩ :=
      exists_of_extend_refused hb hgives hfault
    rw [hundone _ hgives hrefused] at hentered
    have hfront : front = [] := by simpa using congrArg Catalogue.operations hentered
    rw [hfront, List.nil_append] at hsplit
    exact hnew ((List.cons.inj hsplit).1 ▸ htaken)
  · intro h order hgives hrefused
    obtain ⟨fault, hfault⟩ := Option.ne_none_iff_exists'.1 hrefused
    obtain ⟨front, o, after, rfl, hfront, -, -, -, hentered⟩ :=
      exists_of_extend_refused hb hgives hfault
    have hsubset : b.ids ⊆ a.ids :=
      h.resolve_left (mt (extend_succeeds_iff hb hgives).2 hrefused)
    have hnone : front = [] := List.eq_nil_iff_forall_not_mem.2 fun x hx =>
      hfront x hx (hsubset (hgives.mem_ids (List.mem_append_left _ hx)))
    rw [hentered, hnone, List.append_nil]

/-- **Merging a catalogue** whose ids are distinct, in whatever order it gives
its operations. The merge succeeds exactly when the two share no id, and then
holds the operations of both. A merge that fails names an id that both have:
the first taken one, behind operations that have been entered. It is undone in
every order exactly when there is no failure or no operation with a free id. -/
theorem extend_merges (a b : Catalogue) (hb : b.ids.Nodup) :
    (∀ order, b.Gives order →
      ((a.extend ⟨order⟩).2 = none ↔ a.ids.Disjoint b.ids) ∧
      ((a.extend ⟨order⟩).2 = none →
        (a.extend ⟨order⟩).1.operations.Perm (a.operations ++ b.operations)) ∧
      ∀ fault, (a.extend ⟨order⟩).2 = some fault →
        ∃ front o after, order = front ++ o :: after ∧ (∀ x ∈ front, x.id ∉ a.ids) ∧
          o.id ∈ a.ids ∧ o.id ∈ b.ids ∧ fault = .duplicateOperation o.id ∧
          (a.extend ⟨order⟩).1 = ⟨a.operations ++ front⟩) ∧
    ((∀ order, b.Gives order → (a.extend ⟨order⟩).2 ≠ none → (a.extend ⟨order⟩).1 = a) ↔
      a.ids.Disjoint b.ids ∨ b.ids ⊆ a.ids) := by
  refine ⟨fun order h => ⟨extend_succeeds_iff hb h, fun hsucceeds => ?_,
    fun fault hrefused => exists_of_extend_refused hb h hrefused⟩, undone_iff hb⟩
  have hfree := h.free_iff.2 ((extend_succeeds_iff hb h).1 hsucceeds)
  rw [extend_of_free (h.nodup hb) hfree]
  exact h.append_left a.operations

/-- A catalogue with one operation. -/
def held : Catalogue := ⟨[plain "a" "/1"]⟩

/-- A catalogue with another operation of that id and one more. -/
def incoming : Catalogue := ⟨[plain "a" "/2", plain "c" "/3"]⟩

theorem extend_merges_overlapping :
    incoming.ids.Nodup ∧ incoming.Gives [plain "c" "/3", plain "a" "/2"] ∧
      (held.extend ⟨[plain "c" "/3", plain "a" "/2"]⟩).2 = some (.duplicateOperation "a") ∧
      (∃ o : Operation, o.id ∈ held.ids ∧ o.id ∈ incoming.ids ∧
        DeclarationFault.duplicateOperation "a" = .duplicateOperation o.id) ∧
      ¬ ∀ order, incoming.Gives order → (held.extend ⟨order⟩).2 ≠ none →
        (held.extend ⟨order⟩).1 = held := by
  have hnodup : incoming.ids.Nodup := by decide
  have hgives : incoming.Gives [plain "c" "/3", plain "a" "/2"] := List.Perm.swap _ _ _
  have hrefused : (held.extend ⟨[plain "c" "/3", plain "a" "/2"]⟩).2 =
      some (.duplicateOperation "a") := by decide
  obtain ⟨horders, hundone⟩ := extend_merges held incoming hnodup
  obtain ⟨-, o, -, -, -, hheld, hincoming, hfault, -⟩ := (horders _ hgives).2.2 _ hrefused
  refine ⟨hnodup, hgives, hrefused, ⟨o, hheld, hincoming, hfault⟩, ?_⟩
  rw [hundone]
  rintro (hdisjoint | hsubset)
  · exact hdisjoint (a := "a") (by decide) (by decide)
  · exact absurd (hsubset (a := "c") (by decide)) (by decide)

/-- **The order decides what a merge that fails leaves behind**: the operation
with a free id is entered when it is given first, and not when it is given
last. -/
theorem extend_half_entered :
    incoming.Gives [plain "c" "/3", plain "a" "/2"] ∧
      held.extend ⟨[plain "c" "/3", plain "a" "/2"]⟩ =
        (⟨[plain "a" "/1", plain "c" "/3"]⟩, some (.duplicateOperation "a")) ∧
      held.extend ⟨[plain "a" "/2", plain "c" "/3"]⟩ = (held, some (.duplicateOperation "a")) ∧
      (⟨[plain "a" "/1", plain "c" "/3"]⟩ : Catalogue) ≠ held :=
  ⟨List.Perm.swap _ _ _, by decide, by decide, by decide⟩

end Catalogue

end RestCall

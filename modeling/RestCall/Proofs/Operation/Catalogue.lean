import Mathlib.Data.List.Nodup
import RestCall.Operation.Catalogue
/-!
# RestCall — what a catalogue holds

Operations whose ids are new and distinct are all entered, in their order.
Otherwise the first one whose id is taken is refused, and those before it
have been entered. In a catalogue whose ids are distinct each operation is
found under its id, and nothing else is.
-/

namespace RestCall

namespace Catalogue

variable {c : Catalogue} {o : Operation} {os : List Operation} {id : String}

theorem contains_iff : c.contains id = true ↔ id ∈ c.ids := by
  simp [contains, ids]

theorem ids_append : (⟨c.operations ++ os⟩ : Catalogue).ids = c.ids ++ os.map Operation.id :=
  List.map_append

/-! ## Entering -/

theorem register_of_not_mem (h : o.id ∉ c.ids) : c.register o = .ok ⟨c.operations ++ [o]⟩ := by
  rw [register, if_neg (mt contains_iff.1 h)]

theorem register_of_mem (h : o.id ∈ c.ids) :
    c.register o = .error (.duplicateOperation o.id) := by
  rw [register, if_pos (contains_iff.2 h)]

/-- **Operations with ids of their own** are all entered. -/
theorem registerUpTo_of_nodup (h : (c.ids ++ os.map Operation.id).Nodup) :
    c.registerUpTo os = (⟨c.operations ++ os⟩, none) := by
  induction os generalizing c with
  | nil => rw [registerUpTo, List.append_nil]
  | cons o os ih =>
    have hnew : o.id ∉ c.ids := by
      intro hmem
      exact (List.disjoint_of_nodup_append h) hmem List.mem_cons_self
    rw [registerUpTo, register_of_not_mem hnew]
    dsimp only
    rw [ih, List.append_assoc, List.singleton_append]
    rw [ids_append, List.append_assoc]
    exact h

/-- **The first operation whose id is taken** is refused. -/
theorem registerUpTo_of_not_nodup (hc : c.ids.Nodup)
    (h : ¬ (c.ids ++ os.map Operation.id).Nodup) :
    ∃ before o after, os = before ++ o :: after ∧ o.id ∈ c.ids ++ before.map Operation.id ∧
      c.registerUpTo os = (⟨c.operations ++ before⟩, some (.duplicateOperation o.id)) := by
  induction os generalizing c with
  | nil =>
    rw [List.map_nil, List.append_nil] at h
    exact absurd hc h
  | cons o os ih =>
    by_cases hmem : o.id ∈ c.ids
    · refine ⟨[], o, os, rfl, by simpa using hmem, ?_⟩
      rw [registerUpTo, register_of_mem hmem, List.append_nil]
    -- the operation is entered, and the catalogue that has it meets the refusal
    · have hentered : (⟨c.operations ++ [o]⟩ : Catalogue).ids.Nodup := by
        rw [ids_append, List.map_singleton]
        exact List.nodup_append.2 ⟨hc, List.nodup_singleton _, fun x hx y hy =>
          ne_of_mem_of_not_mem hx (by rwa [List.mem_singleton.1 hy])⟩
      obtain ⟨before, o', after, rfl, htaken, hrefused⟩ := ih hentered (by
        rw [ids_append, List.append_assoc]
        exact h)
      refine ⟨o :: before, o', after, rfl, ?_, ?_⟩
      · rw [ids_append, List.append_assoc] at htaken
        exact htaken
      · rw [registerUpTo, register_of_not_mem hmem]
        dsimp only
        rw [hrefused, List.append_assoc, List.singleton_append]

/-- An id that is refused occurs twice. -/
theorem two_le_count_of_taken {before : List Operation} (after : List Operation)
    (h : o.id ∈ c.ids ++ before.map Operation.id) :
    2 ≤ (c.ids ++ (before ++ o :: after).map Operation.id).count o.id := by
  have hbefore := List.one_le_count_iff.2 h
  rw [List.map_append, ← List.append_assoc, List.count_append, List.map_cons,
    List.count_cons_self]
  omega

theorem registerAll_of_nodup (h : (c.ids ++ os.map Operation.id).Nodup) :
    c.registerAll os = .ok ⟨c.operations ++ os⟩ := by
  rw [registerAll, registerUpTo_of_nodup h]

theorem registerAll_of_not_nodup (hc : c.ids.Nodup)
    (h : ¬ (c.ids ++ os.map Operation.id).Nodup) :
    ∃ id, c.registerAll os = .error (.duplicateOperation id) ∧
      2 ≤ (c.ids ++ os.map Operation.id).count id := by
  obtain ⟨before, o, after, rfl, htaken, hrefused⟩ := registerUpTo_of_not_nodup hc h
  refine ⟨o.id, ?_, two_le_count_of_taken after htaken⟩
  rw [registerAll, hrefused]

/-! ## Looking up -/

theorem describe_eq_ok_iff : c.describe id = .ok o ↔ c.find? id = some o := by
  rw [describe]
  cases c.find? id <;> simp

/-- **An id that is there** is described. -/
theorem describe_succeeds_iff : (∃ o, c.describe id = .ok o) ↔ id ∈ c.ids := by
  simp only [describe_eq_ok_iff, ← Option.isSome_iff_exists, find?, List.find?_isSome, ids,
    List.mem_map, beq_iff_eq]

theorem mem_of_describe (h : c.describe id = .ok o) : o ∈ c.operations ∧ o.id = id := by
  have hfind : c.operations.find? (fun o => o.id == id) = some o := describe_eq_ok_iff.1 h
  have hid := List.find?_some hfind
  exact ⟨List.mem_of_find?_eq_some hfind, beq_iff_eq.1 hid⟩

/-- **Under distinct ids** each operation is described by its own. -/
theorem describe_of_mem (hc : c.ids.Nodup) (h : o ∈ c.operations) : c.describe o.id = .ok o := by
  obtain ⟨o', ho'⟩ := describe_succeeds_iff.2 (List.mem_map_of_mem h)
  obtain ⟨hmem, hid⟩ := mem_of_describe ho'
  obtain rfl : o' = o := List.inj_on_of_nodup_map hc hmem h hid
  exact ho'

end Catalogue

end RestCall

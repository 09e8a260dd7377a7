import Mathlib.Data.List.Induction
import RestCall.Json.Value
/-!
# RestCall — members put in one after another

A member that is put into an object keeps the place of its key, and takes
the place behind all others when the key is new. Members that are put in one
after another are therefore in the order in which their keys first occur
(`keys_collect`), each with the value that its key was given last
(`find?_collect`).
-/

namespace RestCall

namespace Json

variable {α : Type} {key key' : String} {value : α} {members : List (String × α)}

/-! ## One member -/

theorem insert_ne_nil : insert key value members ≠ [] := by
  cases members with
  | nil => exact List.cons_ne_nil _ _
  | cons m rest =>
    obtain ⟨k, v⟩ := m
    unfold insert
    split <;> exact List.cons_ne_nil _ _

/-- Members are those that were there and the one put in. -/
theorem mem_insert {m : String × α} (h : m ∈ insert key value members) :
    m = (key, value) ∨ m ∈ members := by
  induction members with
  | nil => exact .inl (List.mem_singleton.1 h)
  | cons first rest ih =>
    obtain ⟨k, v⟩ := first
    unfold insert at h
    split at h
    · rename_i hk
      rw [hk] at h
      exact (List.mem_cons.1 h).imp_right (List.mem_cons_of_mem _)
    · rcases List.mem_cons.1 h with rfl | hrest
      · exact .inr List.mem_cons_self
      · exact (ih hrest).imp_right (List.mem_cons_of_mem _)

/-- **A key that is there keeps its place**; a new one comes last. -/
theorem keys_insert : (insert key value members).map Prod.fst =
    if key ∈ members.map Prod.fst then members.map Prod.fst
    else members.map Prod.fst ++ [key] := by
  induction members with
  | nil => simp [insert]
  | cons m rest ih =>
    obtain ⟨k, v⟩ := m
    unfold insert
    by_cases hk : k = key
    · simp [hk]
    · rw [if_neg hk, List.map_cons, ih]
      have hne : key ≠ k := Ne.symm hk
      by_cases hmem : key ∈ rest.map Prod.fst <;> simp [hne, hmem]

/-- **Looking up** finds what was put in under that key. -/
theorem find?_insert : find? key' (insert key value members) =
    if key = key' then some value else find? key' members := by
  induction members with
  | nil => rfl
  | cons m rest ih =>
    obtain ⟨k, v⟩ := m
    by_cases hk : k = key
    · subst hk
      by_cases hkey : k = key' <;> simp [insert, find?, hkey]
    · have hinsert : insert key value ((k, v) :: rest) = (k, v) :: insert key value rest := by
        rw [insert, if_neg hk]
      rw [hinsert, find?, find?, ih]
      by_cases hkey : key = key'
      · rw [if_neg fun hk' => hk (hk'.trans hkey.symm), if_pos hkey]
        simp [hkey]
      · simp [hkey]

/-! ## All members -/

theorem collect_append_singleton (members : List (String × α)) (m : String × α) :
    collect (members ++ [m]) = insert m.1 m.2 (collect members) := by
  rw [collect, List.foldl_append]
  rfl

theorem collect_ne_nil (h : members ≠ []) : collect members ≠ [] := by
  obtain ⟨front, m, rfl⟩ := (List.eq_nil_or_concat members).resolve_left h
  rw [List.concat_eq_append, collect_append_singleton]
  exact insert_ne_nil

/-- **Keys stand where they first occurred**, each once. -/
theorem keys_collect (members : List (String × α)) :
    (collect members).map Prod.fst = (members.map Prod.fst).eraseDups := by
  induction members using List.reverseRecOn with
  | nil => rfl
  | append_singleton front m ih =>
    rw [collect_append_singleton, keys_insert, ih, List.map_append, List.eraseDups_append]
    -- of the keys already there, the new one is dropped; otherwise it stays
    by_cases hmem : m.1 ∈ front.map Prod.fst <;>
      simp [List.mem_eraseDups, hmem, List.removeAll, List.eraseDups_cons]

/-- **A key has the value that it was given last.** -/
theorem find?_collect (members : List (String × α)) (key : String) :
    find? key (collect members) = find? key members.reverse := by
  induction members using List.reverseRecOn with
  | nil => rfl
  | append_singleton front m ih =>
    rw [collect_append_singleton, find?_insert, ih, List.reverse_append, List.reverse_singleton,
      List.singleton_append, find?]

end Json

end RestCall

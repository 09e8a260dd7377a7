import Mathlib.Data.List.Induction
import Mathlib.Data.List.Perm.Basic
import Mathlib.Data.List.Sort
import RestCall.Collection.Distinct
/-!
# RestCall — first occurrences

What is kept of a list when each item stays where it first occurs is told
without the fold that keeps it (`FirstsOf`): it has the same items, in the order
of their first places. The fold gives such a list (`firstsOf_distinct`), and
there is no other (`FirstsOf.unique`).
-/

namespace RestCall

namespace Collection

variable {α β : Type} [BEq α] [BEq β] {all items items' : List α} {item : α}

/-- **What is kept of a list** when each item stays where it first occurs. -/
structure FirstsOf (all kept : List α) : Prop where
  mem_iff : ∀ item, item ∈ kept ↔ item ∈ all
  order : kept.Pairwise fun a b => all.idxOf a < all.idxOf b

theorem FirstsOf.nodup (h : FirstsOf all items) : items.Nodup :=
  h.order.imp fun hlt heq => absurd hlt (by rw [heq]; exact Nat.lt_irrefl _)

/-- **First occurrences are told** by what they are the first occurrences of. -/
theorem FirstsOf.unique (h : FirstsOf all items) (h' : FirstsOf all items') : items = items' := by
  have hperm : items.Perm items' := (List.perm_ext_iff_of_nodup h.nodup h'.nodup).2 fun item =>
    (h.mem_iff item).trans (h'.mem_iff item).symm
  exact hperm.eq_of_pairwise (fun _ _ _ _ hlt hgt => absurd hgt (Nat.lt_asymm hlt)) h.order h'.order

/-! ## The fold -/

/-- **One more item** is kept when it is new. -/
theorem distinct_concat (items : List α) (item : α) :
    distinct (items ++ [item]) = addOnce (distinct items) item :=
  List.foldl_append

variable [LawfulBEq α] [LawfulBEq β]

theorem distinct_concat_of_mem (h : item ∈ distinct items) :
    distinct (items ++ [item]) = distinct items := by
  rw [distinct_concat, addOnce, if_pos (List.contains_iff_mem.2 h)]

theorem distinct_concat_of_not_mem (h : item ∉ distinct items) :
    distinct (items ++ [item]) = distinct items ++ [item] := by
  rw [distinct_concat, addOnce, if_neg (mt List.contains_iff_mem.1 h)]

theorem mem_distinct_iff : item ∈ distinct items ↔ item ∈ items := by
  induction items using List.reverseRecOn with
  | nil => rfl
  | append_singleton front last ih =>
    by_cases hlast : last ∈ distinct front
    · have hfront : item = last → item ∈ front := fun heq => ih.1 (heq ▸ hlast)
      rw [distinct_concat_of_mem hlast, ih, List.mem_append, List.mem_singleton]
      exact ⟨.inl, fun h => h.elim id hfront⟩
    · rw [distinct_concat_of_not_mem hlast, List.mem_append, List.mem_append, ih]

/-- **The fold keeps first occurrences.** -/
theorem firstsOf_distinct (items : List α) : FirstsOf items (distinct items) := by
  refine ⟨fun item => mem_distinct_iff, ?_⟩
  induction items using List.reverseRecOn with
  | nil => exact .nil
  | append_singleton front last ih =>
    have hplace : ∀ a ∈ distinct front, (front ++ [last]).idxOf a = front.idxOf a := fun a ha =>
      List.idxOf_append_of_mem (mem_distinct_iff.1 ha)
    have hfront : (distinct front).Pairwise
        fun a b => (front ++ [last]).idxOf a < (front ++ [last]).idxOf b := by
      refine List.Pairwise.imp_of_mem (fun ha hb hlt => ?_) ih
      rwa [hplace _ ha, hplace _ hb]
    by_cases hlast : last ∈ distinct front
    · rwa [distinct_concat_of_mem hlast]
    · -- a new item stands behind all that the front holds
      rw [distinct_concat_of_not_mem hlast]
      refine List.pairwise_append.2 ⟨hfront, List.pairwise_singleton _ _, fun a ha b hb => ?_⟩
      obtain rfl := List.mem_singleton.1 hb
      rw [hplace a ha, List.idxOf_append_of_notMem (mt mem_distinct_iff.2 hlast)]
      have hlt : front.idxOf a < front.length := List.idxOf_lt_length_iff.2 (mem_distinct_iff.1 ha)
      omega

theorem distinct_of_nodup (h : items.Nodup) : distinct items = items := by
  induction items using List.reverseRecOn with
  | nil => rfl
  | append_singleton front last ih =>
    obtain ⟨hfront, -, hnew⟩ := List.nodup_append.1 h
    have hlast : last ∉ distinct front := fun hmem =>
      hnew last (mem_distinct_iff.1 hmem) last (List.mem_singleton_self last) rfl
    rw [distinct_concat_of_not_mem hlast, ih hfront]

theorem distinct_map {f : α → β} (hf : Function.Injective f) (items : List α) :
    distinct (items.map f) = (distinct items).map f := by
  induction items using List.reverseRecOn with
  | nil => rfl
  | append_singleton front last ih =>
    have hmem : f last ∈ distinct (front.map f) ↔ last ∈ distinct front := by
      rw [ih, List.mem_map_of_injective hf]
    rw [List.map_append, List.map_singleton]
    by_cases hlast : last ∈ distinct front
    · rw [distinct_concat_of_mem hlast, distinct_concat_of_mem (hmem.2 hlast), ih]
    · rw [distinct_concat_of_not_mem hlast, distinct_concat_of_not_mem (mt hmem.1 hlast), ih,
        List.map_append, List.map_singleton]

end Collection

end RestCall

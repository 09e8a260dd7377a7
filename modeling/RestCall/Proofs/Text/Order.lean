import Mathlib.Data.List.Sort
import Mathlib.Data.String.Basic
import RestCall.Text.Order
/-!
# RestCall — what order keeps and what it forgets

Strings put in order are the same strings, and which order they came in
cannot be told any more.
-/

namespace RestCall

namespace Text

variable {s : String} {strings strings' : List String}

theorem insertSorted_eq_orderedInsert :
    insertSorted s strings = strings.orderedInsert (· ≤ ·) s := by
  induction strings with
  | nil => rfl
  | cons t strings ih =>
    rw [insertSorted, List.orderedInsert_cons, ih]
    by_cases hlt : t < s
    · rw [if_pos hlt, if_neg (not_le.2 hlt)]
    · rw [if_neg hlt, if_pos (not_lt.1 hlt)]

theorem sorted_eq_insertionSort : sorted strings = strings.insertionSort (· ≤ ·) := by
  induction strings with
  | nil => rfl
  | cons s strings ih =>
    rw [List.insertionSort_cons, ← ih, ← insertSorted_eq_orderedInsert]
    rfl

/-- **What is put in order** is neither more nor less than what was given. -/
theorem sorted_perm (strings : List String) : (sorted strings).Perm strings := by
  rw [sorted_eq_insertionSort]
  exact List.perm_insertionSort _ strings

/-- **Put in order, strings are the same** when they were up to their order. -/
theorem sorted_eq_iff_perm : sorted strings = sorted strings' ↔ strings.Perm strings' := by
  constructor
  · intro heq
    exact (sorted_perm strings).symm.trans (heq ▸ sorted_perm strings')
  · intro hperm
    have hsorted : (sorted strings).Perm (sorted strings') :=
      (sorted_perm strings).trans (hperm.trans (sorted_perm strings').symm)
    rw [sorted_eq_insertionSort, sorted_eq_insertionSort] at hsorted ⊢
    exact hsorted.eq_of_pairwise' (List.pairwise_insertionSort _ _)
      (List.pairwise_insertionSort _ _)

end Text

end RestCall

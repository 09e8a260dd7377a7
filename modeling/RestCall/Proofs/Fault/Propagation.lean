import Mathlib.Data.List.Forall2
/-!
# RestCall — how faults propagate

A computation that may fail goes on when its first part has succeeded, and
ends with the fault of the part that has failed.
-/

namespace RestCall

section Propagation

variable {ε ε' α β : Type} {x : Except ε α}

/-- **A sequence succeeds** when both parts do. -/
theorem bind_eq_ok_iff {f : α → Except ε β} {b : β} :
    x >>= f = .ok b ↔ ∃ a, x = .ok a ∧ f a = .ok b := by
  cases x with
  | error e =>
    constructor
    · intro h
      cases h
    · rintro ⟨a, ha, -⟩
      cases ha
  | ok a =>
    constructor
    · intro h
      exact ⟨a, rfl, h⟩
    · rintro ⟨a', ha, h⟩
      cases ha
      exact h

/-- **A sequence fails** when one part does and those before it do not. -/
theorem bind_eq_error_iff {f : α → Except ε β} {e : ε} :
    x >>= f = .error e ↔ x = .error e ∨ ∃ a, x = .ok a ∧ f a = .error e := by
  cases x with
  | error e' =>
    constructor
    · intro h
      cases h
      exact .inl rfl
    · rintro (h | ⟨a, ha, -⟩)
      · cases h
        rfl
      · cases ha
  | ok a =>
    constructor
    · intro h
      exact .inr ⟨a, rfl, h⟩
    · rintro (h | ⟨a', ha, h⟩)
      · cases h
      · cases ha
        exact h

theorem mapError_eq_ok_iff {f : ε → ε'} {a : α} : x.mapError f = .ok a ↔ x = .ok a := by
  cases x <;> simp [Except.mapError]

theorem mapError_eq_error_iff {f : ε → ε'} {e' : ε'} :
    x.mapError f = .error e' ↔ ∃ e, x = .error e ∧ f e = e' := by
  cases x <;> simp [Except.mapError]

/-- **A check is passed** when there is nothing to refuse. -/
theorem guard_eq_ok_iff {p : Prop} [Decidable p] {e : ε} {f : α → Except ε β}
    {y : Except ε β} {b : β} : (if p then throw e >>= f else y) = .ok b ↔ ¬ p ∧ y = .ok b := by
  by_cases hp : p
  · rw [if_pos hp]
    constructor
    · intro h
      cases h
    · intro h
      exact absurd hp h.1
  · rw [if_neg hp, and_iff_right hp]

/-- **A sequence can succeed** when its first part can, and what follows
that. -/
theorem bind_succeeds_iff {f : α → Except ε β} :
    (∃ b, x >>= f = .ok b) ↔ ∃ a, x = .ok a ∧ ∃ b, f a = .ok b := by
  simp only [bind_eq_ok_iff]
  constructor
  · rintro ⟨b, a, ha, hb⟩
    exact ⟨a, ha, b, hb⟩
  · rintro ⟨a, ha, b, hb⟩
    exact ⟨b, a, ha, hb⟩

/-! ## Lists -/

variable {f : α → Except ε β} {xs : List α}

/-- **A list goes through** when each of its items does. -/
theorem mapM_succeeds_iff : (∃ ys, xs.mapM f = .ok ys) ↔ ∀ x ∈ xs, ∃ y, f x = .ok y := by
  induction xs with
  | nil => exact ⟨fun _ x hx => absurd hx List.not_mem_nil, fun _ => ⟨[], rfl⟩⟩
  | cons x xs ih =>
    rw [List.mapM_cons, bind_succeeds_iff, List.forall_mem_cons, ← ih]
    constructor
    · rintro ⟨y, hy, hrest⟩
      obtain ⟨ys, hys, -⟩ := bind_succeeds_iff.1 hrest
      exact ⟨⟨y, hy⟩, ys, hys⟩
    · rintro ⟨⟨y, hy⟩, ys, hys⟩
      exact ⟨y, hy, bind_succeeds_iff.2 ⟨ys, hys, y :: ys, rfl⟩⟩

/-- Two lists of steps that agree on the items go through alike. -/
theorem mapM_congr {g : α → Except ε β} (h : ∀ x ∈ xs, f x = g x) : xs.mapM f = xs.mapM g := by
  induction xs with
  | nil => rfl
  | cons x xs ih =>
    rw [List.forall_mem_cons] at h
    rw [List.mapM_cons, List.mapM_cons, h.1, ih h.2]

/-- **A list that fails** has an item that does. -/
theorem exists_error_of_mapM {e : ε} (h : xs.mapM f = .error e) : ∃ x ∈ xs, f x = .error e := by
  induction xs with
  | nil => cases h
  | cons x xs ih =>
    rw [List.mapM_cons, bind_eq_error_iff] at h
    rcases h with hx | ⟨y, -, hrest⟩
    · exact ⟨x, List.mem_cons_self, hx⟩
    · rcases bind_eq_error_iff.1 hrest with hxs | ⟨ys, -, hpure⟩
      · obtain ⟨x', hmem, hx'⟩ := ih hxs
        exact ⟨x', List.mem_cons_of_mem x hmem, hx'⟩
      · cases hpure

/-- **A list goes through to another one** item by item. -/
theorem mapM_eq_ok_iff {ys : List β} :
    xs.mapM f = .ok ys ↔ List.Forall₂ (fun x y => f x = .ok y) xs ys := by
  induction xs generalizing ys with
  | nil => exact ⟨fun h => by cases h; exact .nil, fun h => by cases h; rfl⟩
  | cons x xs ih =>
    simp only [List.mapM_cons, bind_eq_ok_iff, ih]
    constructor
    · rintro ⟨y, hy, ys', hys, hcons⟩
      cases hcons
      exact .cons hy hys
    · intro h
      cases h with
      | cons hy hys => exact ⟨_, hy, _, hys, rfl⟩

/-- What holds between each item and what it goes to holds between the lists. -/
theorem map_eq_of_mapM {γ : Type} {ys : List β} {g : α → γ} {g' : β → γ}
    (h : xs.mapM f = .ok ys) (heq : ∀ x y, f x = .ok y → g' y = g x) : ys.map g' = xs.map g := by
  induction mapM_eq_ok_iff.1 h with
  | nil => rfl
  | cons hx hxs ih => rw [List.map_cons, List.map_cons, heq _ _ hx, ih (mapM_eq_ok_iff.2 hxs)]

theorem exists_of_mem_mapM {ys : List β} (h : xs.mapM f = .ok ys) {x : α} (hx : x ∈ xs) :
    ∃ y ∈ ys, f x = .ok y := by
  induction mapM_eq_ok_iff.1 h with
  | nil => cases hx
  | cons hhead hxs ih =>
    rcases List.mem_cons.1 hx with rfl | htail
    · exact ⟨_, List.mem_cons_self, hhead⟩
    · obtain ⟨y, hy, heq⟩ := ih (mapM_eq_ok_iff.2 hxs) htail
      exact ⟨y, List.mem_cons_of_mem _ hy, heq⟩

theorem exists_item_of_mapM {ys : List β} (h : xs.mapM f = .ok ys) {y : β} (hy : y ∈ ys) :
    ∃ x ∈ xs, f x = .ok y := by
  induction mapM_eq_ok_iff.1 h with
  | nil => cases hy
  | cons hhead hxs ih =>
    rcases List.mem_cons.1 hy with rfl | htail
    · exact ⟨_, List.mem_cons_self, hhead⟩
    · obtain ⟨x, hx, heq⟩ := ih (mapM_eq_ok_iff.2 hxs) htail
      exact ⟨x, List.mem_cons_of_mem _ hx, heq⟩

/-- **A check of a list** is one of each of its items. -/
theorem forM_eq_ok_iff {check : α → Except ε Unit} :
    xs.forM check = .ok () ↔ ∀ x ∈ xs, check x = .ok () := by
  induction xs with
  | nil => exact ⟨fun _ x hx => absurd hx List.not_mem_nil, fun _ => rfl⟩
  | cons x xs ih =>
    rw [List.forM, bind_eq_ok_iff, List.forall_mem_cons, ← ih]
    constructor
    · rintro ⟨⟨⟩, hx, hxs⟩
      exact ⟨hx, hxs⟩
    · rintro ⟨hx, hxs⟩
      exact ⟨(), hx, hxs⟩

end Propagation

end RestCall

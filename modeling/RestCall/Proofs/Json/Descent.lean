import RestCall.Json.Path
/-!
# RestCall — descending through envelopes

An envelope is an object of one member. Descending takes one envelope off
for each unit of depth, and there are two ways in which it ends: the depth
is used up, or what is left is no envelope. `descend_eq_iff` says that
what is left is the one value that is reached in one of these ways. Either
way a second descent goes on where the first one ended, so that two are one
by the sum of their depths, and one that has come upon something else than
an envelope stays there, however deep it may go (`descend_composed`).
-/

namespace RestCall

namespace Json

variable {v w : Json} {count depth further : Nat}

/-- Whether a value is an envelope: an object of one member. -/
def isEnvelope : Json → Bool
  | .object [_] => true
  | _ => false

/-- A value within a number of envelopes, each of them the only member of
the one around it. -/
inductive Envelops : Nat → Json → Json → Prop
  | bare (v : Json) : Envelops 0 v v
  | around {count : Nat} {v w : Json} (key : String) (inner : Envelops count v w) :
    Envelops (count + 1) (.object [(key, v)]) w

/-! ## One envelope -/

theorem exists_of_isEnvelope (h : v.isEnvelope = true) :
    ∃ key inner, v = .object [(key, inner)] := by
  unfold isEnvelope at h
  split at h
  · exact ⟨_, _, rfl⟩
  · cases h

theorem descend_zero (v : Json) : v.descend 0 = v := by
  unfold descend
  split
  · cases ‹0 = _›
  · rfl

theorem descend_around (key : String) (v : Json) (depth : Nat) :
    (object [(key, v)]).descend (depth + 1) = v.descend depth := by
  rw [descend]

/-- **What is no envelope** is left as it is. -/
theorem descend_of_not_isEnvelope (h : v.isEnvelope = false) (depth : Nat) :
    v.descend depth = v := by
  unfold descend
  split
  · cases h
  · rfl

/-! ## Several envelopes -/

/-- **Envelopes are taken off** one for each unit of depth. -/
theorem Envelops.descend (h : Envelops count v w) (further : Nat) :
    v.descend (count + further) = w.descend further := by
  induction h with
  | bare v => rw [Nat.zero_add]
  | around key _ ih => rw [Nat.succ_add, descend_around, ih]

/-- **A descent ends** with its depth used up, or with something else than an
envelope. -/
theorem exists_envelops_descend (v : Json) (depth : Nat) :
    ∃ count ≤ depth, Envelops count v (v.descend depth) ∧
      (count = depth ∨ (v.descend depth).isEnvelope = false) := by
  induction depth generalizing v with
  | zero =>
    rw [descend_zero]
    exact ⟨0, Nat.le_refl 0, .bare v, .inl rfl⟩
  | succ depth ih =>
    cases henv : v.isEnvelope with
    | false =>
      rw [descend_of_not_isEnvelope henv]
      exact ⟨0, Nat.zero_le _, .bare v, .inr henv⟩
    | true =>
      obtain ⟨key, inner, rfl⟩ := exists_of_isEnvelope henv
      obtain ⟨count, hle, hinner, hend⟩ := ih inner
      rw [descend_around]
      exact ⟨count + 1, Nat.succ_le_succ hle, .around key hinner,
        hend.imp_left (congrArg (· + 1))⟩

/-- What is reached in either way is what further descending goes on with. -/
theorem Envelops.descend_of_end (h : Envelops count v w) (hle : count ≤ depth)
    (hend : count = depth ∨ w.isEnvelope = false) (further : Nat) :
    v.descend (depth + further) = w.descend further := by
  rcases hend with rfl | hw
  · exact h.descend further
  · obtain ⟨rest, rfl⟩ := Nat.exists_eq_add_of_le hle
    rw [Nat.add_assoc, h.descend, descend_of_not_isEnvelope hw, descend_of_not_isEnvelope hw]

/-- **What is left** is the one value that is reached with the depth used up or
that is no envelope. -/
theorem descend_eq_iff : v.descend depth = w ↔
    ∃ count ≤ depth, Envelops count v w ∧ (count = depth ∨ w.isEnvelope = false) := by
  constructor
  · rintro rfl
    exact exists_envelops_descend v depth
  · rintro ⟨count, hle, hw, hend⟩
    exact (hw.descend_of_end hle hend 0).trans (descend_zero w)

/-- **Two descents are one by the sum of their depths.** What a descent leaves
is the value itself or one within it that only envelopes are around, as many
as the depth says unless it is no envelope itself; and then every larger depth
leaves the same. -/
theorem descend_composed (v : Json) (depth : Nat) :
    (∀ further, (v.descend depth).descend further = v.descend (depth + further)) ∧
      (∀ w, v.descend depth = w ↔
        ∃ count ≤ depth, Envelops count v w ∧ (count = depth ∨ w.isEnvelope = false)) ∧
      ((v.descend depth).isEnvelope = false →
        ∀ larger, depth ≤ larger → v.descend larger = v.descend depth) := by
  obtain ⟨count, hle, hwithin, hend⟩ := exists_envelops_descend v depth
  refine ⟨fun further => (hwithin.descend_of_end hle hend further).symm,
    fun w => descend_eq_iff, fun hstop larger hlarger => ?_⟩
  obtain ⟨further, rfl⟩ := Nat.exists_eq_add_of_le hlarger
  rw [hwithin.descend_of_end hle hend, descend_of_not_isEnvelope hstop]

/-- A list of drives in two envelopes, the second of which is the only member
of the first and has another member itself beside the list. -/
def pagedDrives : Json :=
  .object [("response", .object [("page", .object [("count", ofNat 0), ("drives", .array [])])])]

theorem descend_composed_pagedDrives :
    (pagedDrives.descend 1).descend 1 = .object [("count", ofNat 0), ("drives", .array [])] ∧
      (pagedDrives.descend 2).isEnvelope = false ∧
      (∃ count ≤ 2, Envelops count pagedDrives (pagedDrives.descend 2)) ∧
      pagedDrives.descend 100 = pagedDrives.descend 2 := by
  obtain ⟨hsum, -, -⟩ := descend_composed pagedDrives 1
  obtain ⟨-, hleft, hstop⟩ := descend_composed pagedDrives 2
  obtain ⟨count, hle, hwithin, -⟩ := (hleft _).1 rfl
  exact ⟨hsum 1, rfl, ⟨count, hle, hwithin⟩, hstop rfl 100 (by decide)⟩

end Json

end RestCall

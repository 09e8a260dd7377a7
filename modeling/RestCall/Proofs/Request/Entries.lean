import RestCall.Request.Basic
/-!
# RestCall — the laws of setting and removing

Setting a name rewrites the first entry of it and drops the others, or
appends an entry when there is none; the other entries stay as they are,
in their order. So a second value takes the place of the first, and two
names of which no entry has both do not get into each other's way once
the place of the first is taken.
-/

namespace RestCall

namespace Entries

variable {same other : String → Bool} {name name' value value' key old : String}
variable {entries : Entries}

/-- Two classes of names that have none in common. -/
def Apart (same other : String → Bool) : Prop := ∀ name, same name = true → other name = false

/-- A class of names that another one contains. -/
def Within (same other : String → Bool) : Prop := ∀ name, same name = true → other name = true

theorem Within.refl (same : String → Bool) : Within same same := fun _ h => h

theorem Apart.symm (h : Apart same other) : Apart other same := by
  intro name ho
  cases hs : same name with
  | true => rw [h name hs] at ho; cases ho
  | false => rfl

/-! ## Entry by entry -/

theorem setBy_nil : setBy same name value [] = [(name, value)] := rfl

theorem setBy_cons_of_same (h : same key = true) :
    setBy same name value ((key, old) :: entries) = (key, value) :: removeBy same entries := by
  simp [setBy, replaceFirst?, h, removeBy]

theorem setBy_cons_of_not_same (h : same key = false) :
    setBy same name value ((key, old) :: entries) =
      (key, old) :: setBy same name value entries := by
  cases hr : replaceFirst? same value entries <;> simp [setBy, replaceFirst?, h, hr]

theorem removeBy_nil : removeBy same [] = [] := rfl

theorem removeBy_cons_of_same (h : same key = true) :
    removeBy same ((key, old) :: entries) = removeBy same entries :=
  List.filter_cons_of_neg (by simp [h])

theorem removeBy_cons_of_not_same (h : same key = false) :
    removeBy same ((key, old) :: entries) = (key, old) :: removeBy same entries :=
  List.filter_cons_of_pos (by simp [h])

theorem mem_removeBy {e : String × String} :
    e ∈ removeBy same entries ↔ e ∈ entries ∧ same e.1 = false := by
  simp [removeBy]

/-! ## Removing -/

theorem removeBy_append {rest : Entries} :
    removeBy same (entries ++ rest) = removeBy same entries ++ removeBy same rest :=
  List.filter_append ..

theorem removeBy_eq_self (h : ∀ e ∈ entries, same e.1 = false) : removeBy same entries = entries :=
  List.filter_eq_self.2 fun e he => by simp [h e he]

theorem removeBy_removeBy : removeBy same (removeBy same entries) = removeBy same entries :=
  removeBy_eq_self fun _ he => (mem_removeBy.1 he).2

theorem removeBy_comm :
    removeBy same (removeBy other entries) = removeBy other (removeBy same entries) :=
  List.filter_filter.trans <| (List.filter_congr fun _ _ => Bool.and_comm ..).trans <|
    List.filter_filter.symm

/-- Removing some names does not matter where more of them are removed. -/
theorem removeBy_removeBy_of_within (h : Within same other) :
    removeBy other (removeBy same entries) = removeBy other entries := by
  refine List.filter_filter.trans (List.filter_congr fun e _ => ?_)
  cases hs : same e.1 with
  | true => rw [h e.1 hs]; rfl
  | false => rw [Bool.not_false, Bool.and_true]

/-- What is the same without some names is the same without more of them. -/
theorem removeBy_eq_of_within {entries' : Entries} (h : Within same other)
    (heq : removeBy same entries' = removeBy same entries) :
    removeBy other entries' = removeBy other entries := by
  rw [← removeBy_removeBy_of_within h, heq, removeBy_removeBy_of_within h]

/-- Removing other names does not matter to what is set. -/
theorem removeBy_setBy_of_apart (h : Apart same other) (hname : same name = true) :
    removeBy other (setBy same name value entries) =
      setBy same name value (removeBy other entries) := by
  induction entries with
  | nil => rw [setBy_nil, removeBy_cons_of_not_same (h name hname), removeBy_nil, setBy_nil]
  | cons e rest ih =>
    obtain ⟨key, old⟩ := e
    cases hs : same key with
    | true =>
      have ho := h key hs
      rw [setBy_cons_of_same hs, removeBy_cons_of_not_same ho, removeBy_cons_of_not_same ho,
        setBy_cons_of_same hs, removeBy_comm]
    | false =>
      rw [setBy_cons_of_not_same hs]
      cases ho : other key with
      | true => rw [removeBy_cons_of_same ho, removeBy_cons_of_same ho, ih]
      | false => rw [removeBy_cons_of_not_same ho, removeBy_cons_of_not_same ho,
          setBy_cons_of_not_same hs, ih]

/-! ## Setting -/

/-- **What has been set stands there once.** -/
theorem exists_filter_setBy (value : String) (entries : Entries) (h : same name = true) :
    ∃ key, same key = true ∧
      (setBy same name value entries).filter (fun e => same e.1) = [(key, value)] := by
  induction entries with
  | nil => exact ⟨name, h, List.filter_cons_of_pos h⟩
  | cons e rest ih =>
    obtain ⟨key, old⟩ := e
    cases hs : same key with
    | true =>
      have hrest : (removeBy same rest).filter (fun e => same e.1) = [] :=
        List.filter_eq_nil_iff.2 fun e he => by simp [(mem_removeBy.1 he).2]
      refine ⟨key, hs, ?_⟩
      rw [setBy_cons_of_same hs, List.filter_cons, if_pos hs, hrest]
    | false =>
      obtain ⟨key', hkey, hfilter⟩ := ih
      refine ⟨key', hkey, ?_⟩
      rw [setBy_cons_of_not_same hs, List.filter_cons, if_neg (by simp [hs]), hfilter]

/-- Setting a name does not matter where it is removed. -/
theorem removeBy_setBy_of_within (h : Within same other) (hname : other name = true) :
    removeBy other (setBy same name value entries) = removeBy other entries := by
  induction entries with
  | nil => rw [setBy_nil, removeBy_cons_of_same hname]
  | cons e rest ih =>
    obtain ⟨key, old⟩ := e
    cases hs : same key with
    | true => rw [setBy_cons_of_same hs, removeBy_cons_of_same (h key hs),
        removeBy_cons_of_same (h key hs), removeBy_removeBy_of_within h]
    | false =>
      rw [setBy_cons_of_not_same hs]
      cases ho : other key with
      | true => rw [removeBy_cons_of_same ho, removeBy_cons_of_same ho, ih]
      | false => rw [removeBy_cons_of_not_same ho, removeBy_cons_of_not_same ho, ih]

/-- **The last value counts.** -/
theorem setBy_setBy (h : same name = true) :
    setBy same name' value (setBy same name value' entries) = setBy same name value entries := by
  induction entries with
  | nil => rw [setBy_nil, setBy_cons_of_same h, removeBy_nil, setBy_nil]
  | cons e rest ih =>
    obtain ⟨key, old⟩ := e
    cases hs : same key with
    | true => rw [setBy_cons_of_same hs, setBy_cons_of_same hs, setBy_cons_of_same hs,
        removeBy_removeBy]
    | false => rw [setBy_cons_of_not_same hs, setBy_cons_of_not_same hs,
        setBy_cons_of_not_same hs, ih]

/-- **A name that has its place keeps it** while another name is set. -/
theorem setBy_setBy_setBy_of_apart {second : String} (h : Apart same other)
    (hname : same name = true) (hname' : other name' = true) :
    setBy same name value (setBy other name' second (setBy same name value' entries)) =
      setBy other name' second (setBy same name value entries) := by
  induction entries with
  | nil =>
    have ho := h name hname
    have hs := h.symm name' hname'
    rw [setBy_nil, setBy_nil, setBy_cons_of_not_same ho, setBy_cons_of_not_same ho, setBy_nil,
      setBy_cons_of_same hname, removeBy_cons_of_not_same hs, removeBy_nil]
  | cons e rest ih =>
    obtain ⟨key, old⟩ := e
    -- the first entry has the first name, the second name, or neither
    cases hs : same key with
    | true =>
      have ho := h key hs
      rw [setBy_cons_of_same hs, setBy_cons_of_same hs, setBy_cons_of_not_same ho,
        setBy_cons_of_not_same ho, setBy_cons_of_same hs,
        removeBy_setBy_of_apart h.symm hname', removeBy_removeBy]
    | false =>
      rw [setBy_cons_of_not_same hs, setBy_cons_of_not_same hs]
      cases ho : other key with
      | true =>
        rw [setBy_cons_of_same ho, setBy_cons_of_same ho, setBy_cons_of_not_same hs,
          removeBy_setBy_of_apart h hname, removeBy_setBy_of_apart h hname, setBy_setBy hname]
      | false => rw [setBy_cons_of_not_same ho, setBy_cons_of_not_same ho,
          setBy_cons_of_not_same hs, ih]

end Entries

/-! ## Headers -/

namespace Text

theorem sameName_self (name : String) : sameName name name = true := beq_self_eq_true _

theorem apart_sameName {a b : String} (h : sameName a b = false) :
    Entries.Apart (sameName a) (sameName b) := by
  intro name hname
  rw [sameName, beq_iff_eq] at hname
  rw [sameName, ← hname, Bool.beq_comm]
  exact h

end Text

namespace Headers

variable {h : Headers} {name name' value value' second : String}

theorem set_set : (h.set name value').set name value = h.set name value :=
  congrArg Headers.mk (Entries.setBy_setBy (Text.sameName_self name))

theorem set_set_set (hne : Text.sameName name name' = false) :
    ((h.set name value').set name' second).set name value =
      (h.set name value).set name' second :=
  congrArg Headers.mk (Entries.setBy_setBy_setBy_of_apart (Text.apart_sameName hne)
    (Text.sameName_self name) (Text.sameName_self name'))

end Headers

end RestCall

import RestCall.Component.Basic
/-!
# RestCall — looking components up

A name that a family knows is found among its entries. An operation that
refers to a name gets its component exactly when the family knows it, and
the fault of its absence otherwise.
-/

namespace RestCall

namespace Family

variable {α : Type} {f : Family α} {id operation : String} {component : α}
variable {fault : DeclarationFault}

theorem mem_entries_of_find? (h : f.find? id = some component) : (id, component) ∈ f.entries := by
  obtain ⟨⟨name, found⟩, hfind, rfl⟩ := Option.map_eq_some_iff.1 h
  have hname : name = id := by simpa using List.find?_some hfind
  subst hname
  exact List.mem_of_find?_eq_some hfind

theorem contains_iff : f.contains id = true ↔ ∃ component, f.find? id = some component :=
  Option.isSome_iff_exists

/-- **A reference is resolved** to the component that is found. -/
theorem resolve_eq_ok_iff : f.resolve id operation = .ok component ↔
    f.find? id = some component := by
  rw [resolve]
  cases f.find? id <;> simp

theorem resolve_succeeds_iff :
    (∃ component, f.resolve id operation = .ok component) ↔ f.contains id = true := by
  simp only [resolve_eq_ok_iff, contains_iff]

/-- **A reference that is not resolved** is to a name that is not there. -/
theorem resolve_error (h : f.resolve id operation = .error fault) :
    f.contains id = false ∧ ∃ hint, fault = .unknownComponent f.kind id operation hint := by
  rw [resolve] at h
  cases hfind : f.find? id with
  | some component =>
    rw [hfind] at h
    cases h
  | none =>
    rw [hfind] at h
    refine ⟨?_, _, (Except.error.inj h).symm⟩
    rw [contains, hfind]
    rfl

/-- A component of another name is found as before. -/
theorem find?_register_of_ne {other : String} (h : other ≠ id) :
    (f.register id component).find? other = f.find? other := by
  rw [find?, find?, register]
  refine congrArg (Option.map Prod.snd) ?_
  induction f.entries with
  | nil => simp [put, h.symm]
  | cons e entries ih =>
    rw [put]
    split
    · rename_i hid
      simp [hid, h.symm]
    · simp only [List.find?_cons, ih]

end Family

end RestCall

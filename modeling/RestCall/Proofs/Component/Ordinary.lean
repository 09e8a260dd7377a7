import RestCall.Proofs.Filter.Reapplication
import RestCall.Proofs.Payload.Serializer
import RestCall.Proofs.Response.Failure
/-!
# RestCall — components that raise no faults of declarations

A fault of a declaration blames what was written before any call: an
operation or a component that is not there. No built-in component raises
one. A serializer says what it cannot write, a filter what it lacks, a
parser what it cannot read, and a mapper gives back the failure that it was
offered or names what a status means.
-/

namespace RestCall

/-- Whether a result is no fault of a declaration. -/
def Ordinary {α : Type} (x : Except Fault α) : Prop := ∀ d, x ≠ .error (.declaration d)

section Results

variable {α β : Type} {x : Except Fault α}

theorem ordinary_ok (a : α) : Ordinary (.ok a) := by
  intro d h
  cases h

theorem Ordinary.bind {f : α → Except Fault β} (hx : Ordinary x)
    (hf : ∀ a, x = .ok a → Ordinary (f a)) : Ordinary (x >>= f) := by
  intro d h
  rcases bind_eq_error_iff.1 h with herror | ⟨a, ha, herror⟩
  · exact hx d herror
  · exact hf a ha d herror

theorem Ordinary.mapError {f : Fault → Fault} (hx : Ordinary x)
    (hf : ∀ fault d, f fault = .declaration d → fault = .declaration d) :
    Ordinary (x.mapError f) := by
  intro d h
  obtain ⟨fault, herror, heq⟩ := mapError_eq_error_iff.1 h
  exact hx d (hf fault d heq ▸ herror)

theorem Ordinary.map {f : α → β} (hx : Ordinary x) : Ordinary (x.map f) := by
  cases x with
  | ok a => exact ordinary_ok (f a)
  | error fault =>
    intro d h
    exact hx d (congrArg Except.error (Except.error.inj h))

end Results

/-! ## Components -/

/-- A serializer that raises no faults of declarations. -/
structure Serializer.IsOrdinary (s : Serializer) : Prop where
  argument : ∀ a, Ordinary (s.argument a)
  fields : ∀ all, Ordinary (s.fields all)

/-- A filter that raises no faults of declarations. -/
def Filter.IsOrdinary (f : Filter) : Prop := ∀ m r, Ordinary (f.apply m r)

/-- A parser that raises no faults of declarations. -/
def Parser.IsOrdinary (p : Parser) : Prop := ∀ response, Ordinary (p.parse response)

/-- A mapper that raises no faults of declarations of its own. -/
def Mapper.IsOrdinary (m : Mapper) : Prop :=
  ∀ fault, (∀ d, fault ≠ .declaration d) → Ordinary (m.map fault)

/-! ## Built-in components -/

theorem Serializer.isOrdinary_of_builtin {id : String} {s : Serializer}
    (h : builtin.find? id = some s) : s.IsOrdinary := by
  have hs := isBuiltin_of_find? h
  constructor
  · intro a d herror
    obtain ⟨message, hrefusal⟩ := argument_error hs herror
    cases hrefusal
  · intro all d herror
    obtain ⟨message, hrefusal⟩ := fields_error hs herror
    cases hrefusal

/-- What a built-in filter lacks, it says under its name. -/
theorem BuiltinFilter.eq_lack_of_lack? {b : BuiltinFilter} {m : Moment} {fault : Fault}
    (h : b.lack? m = some fault) : ∃ message, fault = Filter.lack b.id message := by
  obtain ⟨credentials, now⟩ := m
  cases credentials with
  | none =>
    cases b with
    | dateHeader => cases h
    | _ => exact ⟨_, (Option.some.inj h).symm⟩
  | some c =>
    cases b with
    | authToken =>
      simp only [lack?] at h
      split at h
      · cases h
      · exact ⟨_, (Option.some.inj h).symm⟩
    | _ => cases h

theorem Filter.isOrdinary_of_builtin {id : String} {f : Filter}
    (h : builtin.find? id = some f) : f.IsOrdinary := by
  obtain ⟨b, -, rfl⟩ := BuiltinFilter.exists_of_find? h
  intro m r d herror
  rw [BuiltinFilter.apply_filter] at herror
  split at herror
  · rename_i fault hlack
    obtain ⟨message, rfl⟩ := BuiltinFilter.eq_lack_of_lack? hlack
    cases herror
  · cases herror

/-- **The JSON parser** blames what it reads. -/
theorem Parser.isOrdinary_json : json.IsOrdinary := by
  intro response d herror
  simp only [json] at herror
  split at herror
  · cases herror
  · split at herror <;> cases herror

theorem Parser.isOrdinary_of_builtin {id : String} {p : Parser}
    (h : builtin.find? id = some p) : p.IsOrdinary := by
  have hmem : (id, p) ∈ [("json", json), ("plain_text", plainText),
      ("split_newlines", splitNewlines), ("key_values", keyValues),
      ("key_values_list", keyValuesList), ("release_payload", releasePayload)] :=
    Family.mem_entries_of_find? h
  simp only [List.mem_cons, Prod.mk.injEq, List.not_mem_nil, or_false] at hmem
  rcases hmem with ⟨-, rfl⟩ | ⟨-, rfl⟩ | ⟨-, rfl⟩ | ⟨-, rfl⟩ | ⟨-, rfl⟩ | ⟨-, rfl⟩
  · exact isOrdinary_json
  all_goals exact fun _ => ordinary_ok _

theorem Mapper.isOrdinary_of_builtin {id : String} {m : Mapper}
    (h : builtin.find? id = some m) : m.IsOrdinary := by
  intro fault hfault d herror
  have hsame := sameFailure_of_map (isBuiltin_of_find? h) herror
  -- a fault with a status is that of the response; any other is given back
  refine hfault d (hsame.same fun operation status body hresponse => ?_).symm
  have hstatus := hsame.status
  rw [hresponse] at hstatus
  cases hstatus

end RestCall

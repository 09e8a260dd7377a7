import RestCall.Payload.Serializer
import RestCall.Proofs.Component.Lookup
/-!
# RestCall — what the built-in serializers take

JSON takes every argument and all fields. Lines and forms take all fields,
and of the arguments those that are objects; raw text takes every argument
that is not null, and no fields. What is refused is refused under the name
of the serializer.
-/

namespace RestCall

/-! ## Absent arguments -/

namespace Argument

/-- **An argument has a text** unless it is absent. -/
theorem wire?_eq_none_iff {a : Argument} : a.wire? = none ↔ a.isNull = true := by
  cases a with
  | null => simp [wire?, isNull]
  | json v => cases v <;> simp [wire?, isNull, Json.wire?]
  | _ => simp [wire?, isNull]

theorem exists_wire?_iff {a : Argument} : (∃ text, a.wire? = some text) ↔ a.isNull = false := by
  rw [← Option.isSome_iff_exists, ← Option.ne_none_iff_isSome, ne_eq, wire?_eq_none_iff,
    Bool.not_eq_true]

end Argument

/-! ## The four serializers -/

namespace Serializer

variable {id : String} {s : Serializer} {a : Argument} {fields : Entries} {fault : Fault}

/-- The names under which only objects are taken. -/
def TakesObjects (id : String) : Prop := id = "key_values" ∨ id = "form"

/-- The serializers that are built in, by their names. -/
inductive IsBuiltin : String → Serializer → Prop
  | json : IsBuiltin "json" Serializer.json
  | keyValues : IsBuiltin "key_values" Serializer.keyValues
  | form : IsBuiltin "form" Serializer.form
  | raw : IsBuiltin "raw" Serializer.raw

theorem isBuiltin_of_find? (h : builtin.find? id = some s) : IsBuiltin id s := by
  have hmem : (id, s) ∈ [("json", json), ("key_values", keyValues), ("form", form), ("raw", raw)] :=
    Family.mem_entries_of_find? h
  simp only [List.mem_cons, Prod.mk.injEq, List.not_mem_nil, or_false] at hmem
  rcases hmem with ⟨rfl, rfl⟩ | ⟨rfl, rfl⟩ | ⟨rfl, rfl⟩ | ⟨rfl, rfl⟩
  · exact .json
  · exact .keyValues
  · exact .form
  · exact .raw

/-! ## What is taken -/

section Objects

variable {v : Json} {f : List (String × Json) → Bytes} {g : Json → Fault}

theorem object_succeeds_iff :
    (∃ data, (match v with
      | .object members => .ok (f members)
      | other => .error (g other) : Except Fault Bytes) = .ok data) ↔
      ∃ members, v = .object members := by
  cases v <;> simp

theorem object_error
    (h : (match v with
      | .object members => .ok (f members)
      | other => .error (g other) : Except Fault Bytes) = .error fault) : ∃ other, fault = g other := by
  split at h
  · cases h
  · exact ⟨_, (Except.error.inj h).symm⟩

end Objects

/-- **An argument is taken** by all built-in serializers but those that want
an object. -/
theorem argument_succeeds_iff (h : IsBuiltin id s) (hgiven : a.isNull = false) :
    (∃ data, s.argument a = .ok data) ↔
      (TakesObjects id → ∃ members, a.toJson = .object members) := by
  cases h with
  | json => exact ⟨fun _ hid => by simp [TakesObjects] at hid, fun _ => ⟨_, rfl⟩⟩
  | keyValues => exact object_succeeds_iff.trans ⟨fun hobj _ => hobj, fun hobj => hobj (.inl rfl)⟩
  | form => exact object_succeeds_iff.trans ⟨fun hobj _ => hobj, fun hobj => hobj (.inr rfl)⟩
  | raw =>
    obtain ⟨text, htext⟩ := Argument.exists_wire?_iff.2 hgiven
    refine ⟨fun _ hid => by simp [TakesObjects] at hid, fun _ => ⟨Utf8.ofString text, ?_⟩⟩
    simp only [raw, htext]

/-- **Fields are taken** by all built-in serializers but that of raw text. -/
theorem fields_succeeds_iff (h : IsBuiltin id s) :
    (∃ data, s.fields fields = .ok data) ↔ id ≠ "raw" := by
  cases h with
  | json => exact ⟨fun _ => by decide, fun _ => ⟨_, rfl⟩⟩
  | keyValues => exact ⟨fun _ => by decide, fun _ => ⟨_, rfl⟩⟩
  | form => exact ⟨fun _ => by decide, fun _ => ⟨_, rfl⟩⟩
  | raw => exact ⟨fun ⟨_, hok⟩ => (by cases hok), fun hne => absurd rfl hne⟩

/-! ## What is refused -/

/-- **An argument that is refused** is refused under the serializer's name. -/
theorem argument_error (h : IsBuiltin id s) (herr : s.argument a = .error fault) :
    ∃ message, fault = refusal id message := by
  cases h with
  | json => cases herr
  | keyValues =>
    obtain ⟨other, rfl⟩ := object_error herr
    exact ⟨_, rfl⟩
  | form =>
    obtain ⟨other, rfl⟩ := object_error herr
    exact ⟨_, rfl⟩
  | raw =>
    simp only [raw] at herr
    split at herr
    · cases herr
    · exact ⟨_, (Except.error.inj herr).symm⟩

/-- **Fields that are refused** are refused under the serializer's name. -/
theorem fields_error (h : IsBuiltin id s) (herr : s.fields fields = .error fault) :
    ∃ message, fault = refusal id message := by
  cases h with
  | json => cases herr
  | keyValues => cases herr
  | form => cases herr
  | raw => exact ⟨_, (Except.error.inj herr).symm⟩

end Serializer

end RestCall

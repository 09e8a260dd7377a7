import RestCall.Binding.Basic
import RestCall.Proofs.Manifest.Operations
/-!
# RestCall — operations and parameters have names

An operation is known by its id, and a parameter by its key. Operations come
about in two ways, from clauses and from the entries of a manifest, and both
end with the same checks. These see to the id and to the keys in query and
headers (`named_of_finish`), but not to those of a payload's fields, which
stay as they are declared in the one place that counts: the last clause with a
payload, or the payload of the entry. So an operation is named throughout
exactly when the fields declared there are (`named_iff`), and one that is not
sends a value under no name (`nameless`).
-/

namespace RestCall

/-- The keys of a payload's fields. -/
def PayloadSpec.keys (spec : PayloadSpec) : List String :=
  match spec.source with
  | .argument _ => []
  | .fields ps => ps.map Parameter.key

/-- The keys of the fields that clauses declare: those of the last one with a
payload. -/
def Clause.fieldKeys (clauses : List Clause) : List String :=
  (clauses.filterMap payload?).getLast?.toList.flatMap PayloadSpec.keys

namespace Manifest

/-- The keys of the fields that an entry declares. -/
def OperationEntry.fieldKeys (e : OperationEntry) : List String :=
  e.payload.toList.flatMap fun p => p.fields.map ParameterEntry.key

end Manifest

namespace Operation

open Manifest (OperationEntry ParameterEntry PayloadEntry Shared)

/-- The keys of the payload's fields. -/
def fieldKeys (o : Operation) : List String := o.payload.toList.flatMap PayloadSpec.keys

/-- **An operation is named throughout**: its id is not blank, and none of its
parameters goes without a key. -/
structure Named (o : Operation) : Prop where
  id : Text.isBlankText o.id = false
  query : ∀ p ∈ o.query, p.key ≠ ""
  headers : ∀ p ∈ o.headers, p.key ≠ ""
  fields : "" ∉ o.fieldKeys

/-- **The ways in which operations come about**, with the keys that are
declared for the fields of the payload. -/
inductive Built : Operation → List String → Prop
  | clauses {id method : String} {clauses : List Clause} {o : Operation} :
    declare id method clauses = .ok o → Built o (Clause.fieldKeys clauses)
  | entry {shared : Shared} {e : OperationEntry} {o : Operation} :
    e.operation shared = .ok o → Built o e.fieldKeys

variable {d : Draft} {o : Operation} {id method : String} {clauses : List Clause}
variable {shared : Shared} {e : OperationEntry} {keys : List String}

/-! ## What the checks see to -/

/-- **A draft that passes** has an id, and keys in query and headers. -/
theorem named_of_finish (h : d.finish = .ok o) :
    Text.isBlankText o.id = false ∧ ∀ p ∈ o.query ++ o.headers, p.key ≠ "" := by
  obtain ⟨hid, hkeys, t, path, -, -, rfl⟩ := Draft.finish_eq_ok_iff.1 h
  exact ⟨hid, hkeys⟩

theorem Built.named (h : Built o keys) :
    Text.isBlankText o.id = false ∧ ∀ p ∈ o.query ++ o.headers, p.key ≠ "" := by
  cases h with
  | clauses h => exact named_of_finish h
  | entry h =>
    obtain ⟨method, -, clauses, -, hdeclare⟩ := OperationEntry.operation_eq_ok_iff.1 h
    exact named_of_finish hdeclare

/-! ## What is left of a payload -/

theorem fieldKeys_of_declare (h : declare id method clauses = .ok o) :
    o.fieldKeys = Clause.fieldKeys clauses := by
  obtain ⟨-, -, t, path, -, -, rfl⟩ := Draft.finish_eq_ok_iff.1 h
  have hpayload : (clauses.foldl Draft.add (Draft.start id method)).payload =
      (clauses.filterMap Clause.payload?).getLast? := by
    rw [Draft.payload_foldl_add]
    exact Option.or_none
  rw [fieldKeys, Draft.operation, hpayload, Clause.fieldKeys]

theorem key_of_parameter {field : ParameterEntry} {p : Parameter}
    (h : field.parameter id = .ok p) : p.key = field.key := by
  rw [ParameterEntry.parameter] at h
  split at h <;> cases h <;> rfl

/-- A payload has the fields of its entry, under their keys. -/
theorem keys_of_spec {p : PayloadEntry} {spec : PayloadSpec} (h : p.spec id = .ok spec) :
    spec.keys = p.fields.map ParameterEntry.key := by
  rw [PayloadEntry.spec] at h
  split at h
  · split at h
    · rename_i hempty
      cases h
      rw [List.isEmpty_iff.1 hempty]
      rfl
    · cases h
  · obtain ⟨ps, hps, h⟩ := bind_eq_ok_iff.1 h
    cases h
    exact map_eq_of_mapM hps fun _ _ => key_of_parameter

theorem fieldKeys_of_operation (h : e.operation shared = .ok o) : o.fieldKeys = e.fieldKeys := by
  obtain ⟨method, -, clauses, hclauses, hdeclare⟩ :=
    OperationEntry.operation_eq_ok_iff.1 h
  obtain ⟨payload, hpayload, hgiven, -⟩ := OperationEntry.clauses_spec hclauses
  rw [fieldKeys_of_declare hdeclare, Clause.fieldKeys, hgiven, OperationEntry.fieldKeys]
  cases hentry : e.payload with
  | none =>
    rw [hentry] at hpayload
    cases hpayload
    rfl
  | some p =>
    rw [hentry] at hpayload
    obtain ⟨spec, hspec, hpayload⟩ := bind_eq_ok_iff.1 hpayload
    cases hpayload
    simp [keys_of_spec hspec]

theorem Built.fieldKeys (h : Built o keys) : o.fieldKeys = keys := by
  cases h with
  | clauses h => exact fieldKeys_of_declare h
  | entry h => exact fieldKeys_of_operation h

/-- **Every operation has an id and keys in its query and headers**, whichever
way it comes about; and it is named throughout exactly when no field of its
payload is declared without a key. -/
theorem named_iff (h : Built o keys) :
    Text.isBlankText o.id = false ∧ (∀ p ∈ o.query ++ o.headers, p.key ≠ "") ∧
      (o.Named ↔ "" ∉ keys) := by
  obtain ⟨hid, hkeys⟩ := h.named
  refine ⟨hid, hkeys, ?_⟩
  rw [← h.fieldKeys]
  constructor
  · exact Named.fields
  · intro hfields
    rw [List.forall_mem_append] at hkeys
    exact ⟨hid, hkeys.1, hkeys.2, hfields⟩

/-- A payload of two fields, the first one under a key that is given. -/
def disk (key : String) : PayloadSpec :=
  ⟨.fields [⟨key, .fixed "x"⟩, ⟨"size", .argument 0 false none⟩], "form", "text/plain"⟩

/-- Clauses with this payload. -/
def creation (key : String) : List Clause :=
  [.path "/drives/create", .query ⟨"dry", .fixed "1"⟩, .payload (disk key), .filters [],
    .options false]

/-- Shared settings with the query parameter of these clauses. -/
def rehearsal : Shared := ⟨[], [⟨"dry", some "1", none, false, none⟩], [], none, none⟩

/-- An entry that is written out as these clauses. -/
def creationEntry (key : String) : OperationEntry :=
  { id := "drives.create", method := "post", path := "/drives/create", pathArguments := []
    query := [], headers := [], accept := none
    payload := some ⟨none, [⟨key, some "x", none, false, none⟩, ⟨"size", none, some 0, true, none⟩],
      "form", "text/plain"⟩
    endpointArgument := none, parser := none, mapper := none, filters := [], unwrapping := none
    literal := none, takesOptions := false }

/-- The operation that both declare. -/
def drive (key : String) : Operation :=
  { id := "drives.create", method := "POST"
    path := ⟨"/drives/create", [.literal "/drives/create"]⟩
    query := [⟨"dry", .fixed "1"⟩], headers := [], accept := none, payload := some (disk key)
    endpointArgument := none, parser := "release_payload", mapper := none, filters := []
    unwrapping := none, literal := [], takesOptions := false }

theorem declare_creation (key : String) :
    declare "drives.create" "POST" (creation key) = .ok (drive key) := by
  have hid : Text.isBlankText "drives.create" = false := by decide
  have hquery : ∀ p ∈ [(⟨"dry", .fixed "1"⟩ : Parameter)], p.key ≠ "" := by decide
  have hpath : Template.parse "/drives/create" =
      .ok ⟨"/drives/create", [.literal "/drives/create"]⟩ := by decide
  exact Draft.finish_eq_ok_iff.2 ⟨hid, hquery, _, _, hpath, rfl, rfl⟩

theorem operation_creationEntry (key : String) :
    (creationEntry key).operation rehearsal = .ok (drive key) := by
  have hupper : Text.upperToAscii "post" = some "POST" := by decide
  have hmethod : isMethod "POST" = true := by decide
  have hname : (creationEntry key).methodName = .ok "POST" := by
    rw [OperationEntry.methodName, creationEntry, hupper]
    exact if_pos hmethod
  exact OperationEntry.operation_eq_ok_iff.2 ⟨_, hname, creation key, rfl, declare_creation key⟩

theorem named_iff_drive :
    Built (drive "name") ["name", "size"] ∧ (drive "name").Named ∧
      Text.isBlankText (drive "name").id = false := by
  have hbuilt : Built (drive "name") ["name", "size"] :=
    .entry (operation_creationEntry "name")
  obtain ⟨hid, -, hnamed⟩ := named_iff hbuilt
  exact ⟨hbuilt, hnamed.2 (by decide), hid⟩

/-- **A field without a key is let through**, from clauses and from a manifest,
and its value is sent under no name. -/
theorem nameless :
    declare "drives.create" "POST" (creation "") = .ok (drive "") ∧
      (creationEntry "").operation rehearsal = .ok (drive "") ∧ ¬ (drive "").Named ∧
      ∃ r, Binding.bind Serializer.builtin "https://api.example.com" (drive "") [] [] = .ok r ∧
        r.payload = some ⟨Utf8.ofString "=x", "text/plain"⟩ :=
  ⟨declare_creation "", operation_creationEntry "", fun h => absurd h.fields (by decide), _, rfl, rfl⟩

end Operation

end RestCall

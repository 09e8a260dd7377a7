import RestCall.Manifest.Loading
import RestCall.Proofs.Json.Document
/-!
# RestCall — manifests read back from their text

A manifest that is written as a JSON text is read back as it was
(`ofJson_text_toJson`). Each record is read from the members that were written
for it, which come in the order of its fields. A setting that is not there has
no member, and a record that is being read starts without it; so what is
skipped in writing is what reading leaves alone (`fills_member?`). The two
forms of the part of a response that is the result have different keys, so
neither is taken for the other (`reads_unwrapping`).
-/

namespace RestCall

namespace Manifest

open Json (Reader)
open Json.Reader (Reads Fills reads_text reads_flag reads_natural reads_listValue reads_record
  reads_content reads_value_string reads_value_ofNat reads_value_object)
open Shape (Content Field Source)

variable {α σ : Type} {depth n : Nat} {key : String} {read : Reader α} {write : α → Json}
variable {fields : List (Field Reader σ)} {members : List (String × Json)} {s t : σ}

/-! ## Settings -/

theorem reads_index (h : n ≤ Numeral.max64) : Reads depth indexValue (.ofNat n) n := by
  have hkind : Shape.IntegerKind.index.holds n = true := by
    rw [Shape.IntegerKind.holds, Bool.and_eq_true, decide_eq_true_eq, decide_eq_true_eq]
    exact ⟨Int.natCast_nonneg n, Int.ofNat_le.2 h⟩
  exact reads_natural h hkind

theorem reads_strings (items : List String) :
    Reads (depth + 1) (Source.list Source.text) (strings items) items :=
  reads_listValue fun s _ => reads_text s

/-- **A setting is read from its member**, or left as it is without one. -/
theorem fills_member? {o : Option α} {put : σ → Option α → σ}
    (hread : ∀ a ∈ o, Reads depth read (write a) a) (hnone : put s none = s)
    (h : Fills depth fields members (put s o) t) :
    Fills depth (Shape.optional key (Source.optional read) put :: fields)
      (member? key write o ++ members) s t := by
  cases o with
  | none =>
    rw [hnone] at h
    exact .absent rfl h
  | some a => exact .optional (hread a rfl).optional h

theorem fills_last? {o : Option α} {put : σ → Option α → σ}
    (hread : ∀ a ∈ o, Reads depth read (write a) a) (hnone : put s none = s) :
    Fills depth [Shape.optional key (Source.optional read) put] (member? key write o) s
      (put s o) := by
  rw [← List.append_nil (member? key write o)]
  exact fills_member? hread hnone .nil

/-! ## Positions

What a manifest says about arguments and depths it says in numbers, which are
read as numbers of 64 bits. -/

/-- The positions that a parameter mentions. -/
def ParameterEntry.positions (e : ParameterEntry) : List Nat := e.argument.toList

/-- The positions that a payload mentions. -/
def PayloadEntry.positions (e : PayloadEntry) : List Nat :=
  e.argument.toList ++ e.fields.flatMap ParameterEntry.positions

/-- The positions that shared settings mention. -/
def Shared.positions (e : Shared) : List Nat :=
  (e.query ++ e.headers).flatMap ParameterEntry.positions

/-- The depth at which a result is, if that is how it is found. -/
def unwrappingPositions : Unwrapping → List Nat
  | .path _ => []
  | .depth depth => [depth]

/-- The positions that an operation mentions. -/
def OperationEntry.positions (e : OperationEntry) : List Nat :=
  e.pathArguments.map PathEntry.argument ++
    (e.query ++ e.headers).flatMap ParameterEntry.positions ++
    e.payload.toList.flatMap PayloadEntry.positions ++ e.endpointArgument.toList ++
    e.unwrapping.toList.flatMap unwrappingPositions

/-- The positions that a manifest mentions. -/
def positions (m : Manifest) : List Nat :=
  m.shared.positions ++ m.operations.flatMap OperationEntry.positions

/-- Whether 64 bits hold each of the numbers. -/
def Indices (ns : List Nat) : Prop := ∀ n ∈ ns, n ≤ Numeral.max64

instance (ns : List Nat) : Decidable (Indices ns) := inferInstanceAs (Decidable (∀ n ∈ ns, _))

@[simp] theorem indices_append {ns ns' : List Nat} :
    Indices (ns ++ ns') ↔ Indices ns ∧ Indices ns' := List.forall_mem_append

@[simp] theorem indices_flatMap {xs : List α} {f : α → List Nat} :
    Indices (xs.flatMap f) ↔ ∀ x ∈ xs, Indices (f x) := List.forall_mem_flatMap

@[simp] theorem indices_toList {o : Option Nat} :
    Indices o.toList ↔ ∀ n ∈ o, n ≤ Numeral.max64 := by
  simp only [Indices, Option.mem_toList, Option.mem_def]

/-! ## Records -/

theorem reads_parameter (e : ParameterEntry) (h : Indices e.positions) :
    Reads (depth + 2) (Source.record ParameterEntry.record) e.toJson e := by
  simp only [ParameterEntry.toJson, List.append_assoc, List.cons_append, List.nil_append]
  refine reads_record (by decide) ?_
  refine .required (reads_text e.key) ?_
  refine fills_member? (fun value _ => reads_text value) rfl ?_
  refine fills_member? (fun n hn => reads_index (indices_toList.1 h n hn)) rfl ?_
  refine .optional (reads_flag e.isOptional) ?_
  exact fills_last? (fun items _ => reads_strings items) rfl

theorem reads_parameters {es : List ParameterEntry}
    (h : Indices (es.flatMap ParameterEntry.positions)) :
    Reads (depth + 3) (Source.list (Source.record ParameterEntry.record))
      (.array (es.map ParameterEntry.toJson)) es :=
  reads_listValue fun e he => reads_parameter e (indices_flatMap.1 h e he)

theorem reads_slot (e : PathEntry) (h : e.argument ≤ Numeral.max64) :
    Reads (depth + 1) (Source.record PathEntry.record) e.toJson e := by
  refine reads_record (by decide) ?_
  refine .required (reads_text e.name) ?_
  exact .required (reads_index h) .nil

theorem reads_payload (e : PayloadEntry) (h : Indices e.positions) :
    Reads (depth + 4) (Source.record PayloadEntry.record) e.toJson e := by
  rw [PayloadEntry.positions, indices_append, indices_toList] at h
  refine reads_record (by decide) ?_
  refine fills_member? (fun n hn => reads_index (h.1 n hn)) rfl ?_
  refine .optional (reads_parameters h.2) ?_
  refine .required (reads_text e.serializer) ?_
  exact .required (reads_text e.contentType) .nil

theorem reads_shared (e : Shared) (h : Indices e.positions) :
    Reads (depth + 4) (Source.record Shared.record) e.toJson e := by
  rw [Shared.positions, List.flatMap_append, indices_append] at h
  simp only [Shared.toJson, List.cons_append, List.nil_append]
  refine reads_record (by decide) ?_
  refine .optional (reads_strings e.filters) ?_
  refine .optional (reads_parameters h.1) ?_
  refine .optional (reads_parameters h.2) ?_
  refine fills_member? (fun accept _ => reads_text accept) rfl ?_
  exact fills_last? (fun literal _ => reads_text literal) rfl

/-- A record of one member is a content of one entry. -/
theorem reads_only {v : Json} {content : Content}
    (h : ∀ n, Reads depth (Reader.value .contents (n + 1)) v content) :
    Reads (depth + 1) Source.content (.object [(key, v)]) (.map [(.text key, content)]) := by
  refine reads_content fun n hn => ?_
  obtain ⟨left, rfl⟩ := Nat.exists_eq_add_of_le' (Nat.le_trans (Nat.le_add_left 2 depth) hn)
  have hmembers : ∀ m ∈ [(key, content)], Reads depth (Reader.value .contents (left + 1)) v m.2 := by
    simpa using h left
  exact reads_value_object (fun _ => v) hmembers

/-- **Each form of a result's place is read as itself**: the other form is
known by another key. -/
theorem reads_unwrapping (u : Unwrapping) (h : Indices (unwrappingPositions u)) :
    Reads (depth + 1) unwrappingValue (unwrappingJson u) u := by
  -- what is read as content has one entry, and only one of the two forms has its key
  cases u with
  | path path => exact (reads_only fun _ => reads_value_string path).bind rfl
  | depth d =>
    have hd : d ≤ Numeral.max64 := h d List.mem_cons_self
    exact (reads_only fun _ => reads_value_ofNat hd).bind rfl

theorem reads_operation (e : OperationEntry) (h : Indices e.positions) :
    Reads (depth + 5) (Source.record OperationEntry.record) e.toJson e := by
  simp only [OperationEntry.positions, List.flatMap_append, indices_append, indices_flatMap,
    indices_toList, Option.mem_toList] at h
  obtain ⟨⟨⟨⟨hslots, hquery, hheaders⟩, hpayload⟩, hendpoint⟩, hunwrapping⟩ := h
  simp only [OperationEntry.toJson, List.append_assoc, List.cons_append, List.nil_append]
  refine reads_record (by decide) ?_
  refine .required (reads_text e.id) ?_
  refine .optional (reads_text e.method) ?_
  refine .optional (reads_text e.path) ?_
  refine .optional (reads_listValue fun p hp => reads_slot p (hslots _ (List.mem_map_of_mem hp))) ?_
  refine .optional (reads_parameters (indices_flatMap.2 hquery)) ?_
  refine .optional (reads_parameters (indices_flatMap.2 hheaders)) ?_
  refine fills_member? (fun accept _ => reads_text accept) rfl ?_
  refine fills_member? (fun payload hp => reads_payload payload (hpayload payload hp)) rfl ?_
  refine fills_member? (fun n hn => reads_index (hendpoint n hn)) rfl ?_
  refine fills_member? (fun parser _ => reads_text parser) rfl ?_
  refine fills_member? (fun mapper _ => reads_text mapper) rfl ?_
  refine .optional (reads_strings e.filters) ?_
  refine fills_member? (fun u hu => reads_unwrapping u (hunwrapping u hu)) rfl ?_
  refine fills_member? (fun literal _ => reads_text literal) rfl ?_
  exact .optional (reads_flag e.takesOptions) .nil

theorem reads_manifest (m : Manifest) (h : Indices m.positions) :
    Reads (depth + 7) value m.toJson m := by
  rw [positions, indices_append, indices_flatMap] at h
  simp only [toJson, List.append_assoc, List.cons_append, List.nil_append]
  refine reads_record (by decide) ?_
  refine .required (reads_text m.id) ?_
  refine fills_member? (fun name _ => reads_text name) rfl ?_
  refine fills_member? (fun endpoint _ => reads_text endpoint) rfl ?_
  refine .optional (reads_shared m.shared h.1) ?_
  exact .required (reads_listValue fun e he => reads_operation e (h.2 e he)) .nil

/-! ## Texts -/

/-- **A manifest is read back from its text**, and so declares what it
declared. Positions are words of 64 bits; a number beyond would be refused. -/
theorem ofJson_text_toJson (m : Manifest) (h : Indices m.positions) :
    ofJson m.toJson.text = .ok m ∧ (ofJson m.toJson.text).bind declared = m.declared := by
  have hreads : Reads 7 value m.toJson m := reads_manifest m h
  have hrun : Reader.run value (Utf8.ofString m.toJson.text) = .ok m := hreads.run (by decide)
  have hread : ofJson m.toJson.text = .ok m := by
    rw [ofJson, ofJsonAt, hrun]
    rfl
  exact ⟨hread, by rw [hread]; rfl⟩

/-- A manifest with operations of both kinds of payload and result, with
settings that are there and settings that are not, and with characters that
have to be escaped. -/
def drives : Manifest where
  id := "drives"
  name := some "Drives\nof \x22all\x22 kinds"
  endpoint := none
  shared := ⟨["signer"], [⟨"response", some "json", none, false, none⟩], [], none, some "/,"⟩
  operations :=
    [{ id := "drives.create", method := "post", path := "/drives/\x7bid\x7d"
       pathArguments := [⟨"id", 0⟩], query := [⟨"", some "", some 7, true, some []⟩]
       headers := [⟨"X-Größe", none, some 1, true, some ["a\tb", "\x01\\"]⟩]
       accept := some "application/json"
       payload := some ⟨none, [⟨"name", none, some 2, false, none⟩], "json", "application/json"⟩
       endpointArgument := some 18446744073709551615, parser := none, mapper := some "mapper"
       filters := ["signer", "tracer"], unwrapping := some (.path "drives[0]"), literal := none
       takesOptions := true },
     { id := "drives.replace", method := "PUT", path := "", pathArguments := [], query := []
       headers := [], accept := none, payload := some ⟨some 0, [], "form", "text/plain"⟩
       endpointArgument := none, parser := some "json", mapper := none, filters := []
       unwrapping := some (.depth 10), literal := some "", takesOptions := false }]

theorem ofJson_text_toJson_drives :
    Indices drives.positions ∧ ofJson drives.toJson.text = .ok drives ∧
      (ofJson drives.toJson.text).bind declared = drives.declared :=
  ⟨by decide, ofJson_text_toJson drives (by decide)⟩

end Manifest

end RestCall

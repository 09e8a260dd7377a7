import RestCall.Proofs.Binding.Options
/-!
# RestCall — payload fields that options override

The fields that options contribute are put among those that the operation
declares, one after another: the first field of the key takes the new value,
a new key comes last. In the query a parameter that is set also drops the
further ones of its key; a field that is put leaves them. So a contributed
key stands there with the value contributed last, followed by whatever was
declared behind its first field (`under_putAll`), and the fields are
overridden as a query is exactly when no contributed key is declared more
than once (`fields_overridden_iff`). Otherwise a declared value stays behind
the new one, and a serializer that takes the last value of a key never sees
the option (`fields_stale`).
-/

namespace RestCall

namespace Options

open Entries

variable {added fields declared : Entries} {f : String × String} {key value : String}

/-- The entries of a key. -/
def under (key : String) (entries : Entries) : Entries :=
  entries.filter fun e => alike id key e.1

/-- Fields put among others, in order. -/
def putAll (added declared : Entries) : Entries := added.foldl putField declared

theorem under_cons_of_eq : under key ((key, value) :: fields) = (key, value) :: under key fields :=
  List.filter_cons_of_pos alike_self

theorem under_cons_of_ne {key' : String} (h : key' ≠ key) :
    under key ((key', value) :: fields) = under key fields :=
  List.filter_cons_of_neg fun halike => h (alike_iff.1 halike).symm

/-! ## One field -/

theorem putField_cons_of_eq : putField ((f.1, value) :: fields) f = f :: fields :=
  if_pos rfl

theorem putField_cons_of_ne (h : key ≠ f.1) :
    putField ((key, value) :: fields) f = (key, value) :: putField fields f :=
  if_neg h

/-- Putting a field does not matter to classes of other names. -/
theorem filter_putField_of_not {p : String → Bool} (h : p f.1 = false) :
    (putField fields f).filter (fun e => p e.1) = fields.filter fun e => p e.1 := by
  induction fields with
  | nil => simp [putField, h]
  | cons e rest ih =>
    obtain ⟨key, value⟩ := e
    by_cases hkey : key = f.1
    · subst hkey
      simp [putField_cons_of_eq, h]
    · rw [putField_cons_of_ne hkey, List.filter_cons, List.filter_cons, ih]

/-- **A field that is put** takes the place of the first of its key and leaves
the others where they are. -/
theorem under_putField : under f.1 (putField fields f) = f :: (under f.1 fields).tail := by
  induction fields with
  | nil => exact under_cons_of_eq
  | cons e rest ih =>
    obtain ⟨key, value⟩ := e
    by_cases hkey : key = f.1
    · subst hkey
      rw [putField_cons_of_eq, under_cons_of_eq, under_cons_of_eq, List.tail_cons]
    · rw [putField_cons_of_ne hkey, under_cons_of_ne hkey, under_cons_of_ne hkey, ih]

/-- **A field whose key occurs at most once** is put as a parameter is set:
there is nothing to drop. -/
theorem putField_eq_setBy (h : (under f.1 fields).length ≤ 1) :
    putField fields f = setBy (alike id f.1) f.1 f.2 fields := by
  induction fields with
  | nil => rfl
  | cons e rest ih =>
    obtain ⟨key, value⟩ := e
    by_cases hkey : key = f.1
    · subst hkey
      rw [under_cons_of_eq, List.length_cons] at h
      have hnone : under f.1 rest = [] := List.eq_nil_of_length_eq_zero (by omega)
      have hrest : removeBy (alike id f.1) rest = rest :=
        removeBy_eq_self fun e he => by simpa using List.filter_eq_nil_iff.1 hnone e he
      rw [putField_cons_of_eq, setBy_cons_of_same alike_self, hrest]
    · have hne : alike id f.1 key = false :=
        Bool.eq_false_iff.2 fun halike => hkey (alike_iff.1 halike).symm
      rw [under_cons_of_ne hkey] at h
      rw [putField_cons_of_ne hkey, setBy_cons_of_not_same hne, ih h]

/-! ## All fields -/

/-- **Fields of other keys** are as they were declared. -/
theorem filter_putAll_of_not {p : String → Bool} (h : ∀ e ∈ added, p e.1 = false) :
    (putAll added declared).filter (fun e => p e.1) = declared.filter fun e => p e.1 := by
  induction added generalizing declared with
  | nil => rfl
  | cons f rest ih =>
    rw [List.forall_mem_cons] at h
    exact (ih h.2).trans (filter_putField_of_not h.1)

/-- **What stands under a key** that is contributed: the value contributed
last, and what was declared behind the first field of the key. -/
theorem under_putAll (added declared : Entries) (key : String) :
    under key (putAll added declared) = match last? id added key with
      | none => under key declared
      | some value => (key, value) :: (under key declared).tail := by
  -- from the end of the list: the last field of a key decides its value
  induction added using List.reverseRecOn with
  | nil => rfl
  | append_singleton added f ih =>
    have hput : putAll (added ++ [f]) declared = putField (putAll added declared) f :=
      List.foldl_append
    rw [hput]
    cases halike : alike id key f.1 with
    | true =>
      obtain rfl : key = f.1 := alike_iff.1 halike
      rw [under_putField, ih, last?_append_of_alike alike_self]
      cases last? id added f.1 <;> rfl
    | false =>
      rw [last?_append_of_not_alike halike, ← ih]
      exact filter_putField_of_not halike

/-- **Contributed keys that are declared at most once** are put as parameters
are set. -/
theorem putAll_eq_setAll (h : ∀ e ∈ added, (under e.1 declared).length ≤ 1) :
    putAll added declared = setAll id added declared := by
  induction added generalizing declared with
  | nil => rfl
  | cons f rest ih =>
    rw [List.forall_mem_cons] at h
    have hkept : ∀ e ∈ rest, (under e.1 (putField declared f)).length ≤ 1 := by
      intro e he
      by_cases hkey : e.1 = f.1
      · rw [hkey, under_putField, List.length_cons, List.length_tail]
        have hf := h.1
        omega
      · have hsame : under e.1 (putField declared f) = under e.1 declared :=
          filter_putField_of_not (Bool.eq_false_iff.2 fun halike => hkey (alike_iff.1 halike))
        rw [hsame]
        exact h.2 e he
    have hcons : setAll id (f :: rest) declared =
        setAll id rest (setBy (alike id f.1) f.1 f.2 declared) := rfl
    rw [hcons, ← putField_eq_setBy h.1, ← ih hkept]
    rfl

/-- **Fields are overridden as a query is** exactly when no contributed key
is declared more than once. -/
theorem overridden_putAll_iff : Overridden id declared added (putAll added declared) ↔
    ∀ e ∈ added, (under e.1 declared).length ≤ 1 := by
  constructor
  · intro h e he
    obtain ⟨spelled, value, honce, hlast⟩ := h.once e he
    have hunder := under_putAll added declared e.1
    rw [hlast] at hunder
    have hlength := congrArg List.length (honce.symm.trans hunder)
    rw [List.length_singleton, List.length_cons, List.length_tail] at hlength
    omega
  · intro h
    rw [putAll_eq_setAll h]
    exact overridden_setAll id declared added

end Options

namespace Binding

open Entries Options

variable {serializers : Family Serializer} {endpoint : String} {o : Operation}
variable {args : List Argument} {options : List Options} {r : Request}
variable {fields : List Parameter} {serializer contentType : String}

/-- The fields of a payload are what its operation declares, with what the
options contribute put among it. -/
theorem payloadFields_eq_ok_iff {all : Entries} :
    payloadFields args options fields = .ok all ↔
      ∃ declared, entries args .payload fields = .ok declared ∧
        putAll (allFields options) declared = all := by
  rw [payloadFields, bind_eq_ok_iff]
  constructor
  · rintro ⟨declared, hdeclared, h⟩
    exact ⟨declared, hdeclared, Except.ok.inj h⟩
  · rintro ⟨declared, hdeclared, rfl⟩
    exact ⟨declared, hdeclared, rfl⟩

/-- A payload of fields has been serialized from its fields. -/
theorem payload_of_fields {p : Option Payload}
    (hspec : o.payload = some ⟨.fields fields, serializer, contentType⟩)
    (h : payload serializers o args options = .ok p) :
    ∃ s all data, serializers.resolve serializer o.id = .ok s ∧
      payloadFields args options fields = .ok all ∧ s.fields all = .ok data ∧
      p = some ⟨data, contentType⟩ := by
  rw [payload, hspec] at h
  obtain ⟨s, hs, h⟩ := bind_eq_ok_iff.1 h
  obtain ⟨data, hdata, h⟩ := bind_eq_ok_iff.1 h
  obtain ⟨all, hall, hdata⟩ := bind_eq_ok_iff.1 hdata
  exact ⟨s, all, data, mapError_eq_ok_iff.1 hs, hall, mapError_eq_ok_iff.1 hdata,
    (Except.ok.inj h).symm⟩

/-- **What options do to the fields of a payload.** The list that the
serializer is given has, under a key that options contribute, the value
contributed last and behind it what was declared behind the first field of
the key; under other keys it has what was declared, in its order. So it is
overridden as a query is, each contributed key standing there once, exactly
when no contributed key is declared more than once. -/
theorem fields_overridden_iff
    (hspec : o.payload = some ⟨.fields fields, serializer, contentType⟩)
    (h : bind serializers endpoint o args options = .ok r) :
    ∃ s declared all data, serializers.resolve serializer o.id = .ok s ∧
      entries args .payload fields = .ok declared ∧
      payloadFields args options fields = .ok all ∧ s.fields all = .ok data ∧
      r.payload = some ⟨data, contentType⟩ ∧
      (∀ e ∈ allFields options, ∃ value, last? id (allFields options) e.1 = some value ∧
        under e.1 all = (e.1, value) :: (under e.1 declared).tail) ∧
      all.filter (fun e => !hasName id (allFields options) e.1) =
        declared.filter (fun e => !hasName id (allFields options) e.1) ∧
      (Overridden id declared (allFields options) all ↔
        ∀ e ∈ allFields options, (under e.1 declared).length ≤ 1) := by
  obtain ⟨-, stages, hstages, rfl⟩ := bound_iff.1 h
  obtain ⟨s, all, data, hs, hall, hdata, hp⟩ := payload_of_fields hspec hstages.payload
  obtain ⟨declared, hdeclared, rfl⟩ := payloadFields_eq_ok_iff.1 hall
  refine ⟨s, declared, _, data, hs, hdeclared, hall, hdata, hp, fun e he => ?_, ?_,
    overridden_putAll_iff⟩
  · have hthere : hasName id (allFields options) e.1 = true := hasName_of_mem he
    obtain ⟨value, hvalue⟩ := exists_last? hthere
    refine ⟨value, hvalue, ?_⟩
    rw [under_putAll, hvalue]
  · have hnot : ∀ e ∈ allFields options, (!hasName id (allFields options) e.1) = false := by
      intro e he
      rw [hasName_of_mem he]
      rfl
    exact filter_putAll_of_not (p := fun name => !hasName id (allFields options) name) hnot

/-- An operation that declares some fields of its payload twice. -/
def creation (serializer : String) : Operation :=
  { id := "drives.create", method := "POST", path := ⟨"/drives", [.literal "/drives"]⟩
    query := [], headers := [], accept := none
    payload := some ⟨.fields [⟨"tag", .fixed "a"⟩, ⟨"name", .argument 0 true none⟩,
      ⟨"tag", .fixed "b"⟩], serializer, "text/plain"⟩
    endpointArgument := none, parser := "release_payload", mapper := none, filters := []
    unwrapping := none, literal := [], takesOptions := true }

/-- Options that contribute a field that is declared once, and a new one. -/
def relabelling : List Options :=
  [⟨[], [], [("size", "1"), ("name", "x")]⟩, ⟨[], [], [("name", "y")]⟩]

theorem fields_overridden_iff_relabelling :
    (creation "form").payload = some ⟨.fields [⟨"tag", .fixed "a"⟩,
      ⟨"name", .argument 0 true none⟩, ⟨"tag", .fixed "b"⟩], "form", "text/plain"⟩ ∧
    ∃ r, bind Serializer.builtin "http://h" (creation "form") [.text "w"] relabelling = .ok r ∧
      r.payload = some ⟨Utf8.ofString "tag=a&name=y&tag=b&size=1", "text/plain"⟩ ∧
      Overridden id [("tag", "a"), ("name", "w"), ("tag", "b")]
        [("size", "1"), ("name", "x"), ("name", "y")]
        [("tag", "a"), ("name", "y"), ("tag", "b"), ("size", "1")] := by
  have hbind : bind Serializer.builtin "http://h" (creation "form") [.text "w"] relabelling =
      .ok ⟨"drives.create", "POST", "http://h/drives", ⟨[]⟩,
        ⟨[("Content-Type", "text/plain"), ("Content-Length", "25")]⟩,
        some ⟨Utf8.ofString "tag=a&name=y&tag=b&size=1", "text/plain"⟩, [], []⟩ := rfl
  obtain ⟨s, declared, all, data, -, hdeclared, hall, -, -, -, -, hiff⟩ :=
    fields_overridden_iff rfl hbind
  obtain rfl : [("tag", "a"), ("name", "w"), ("tag", "b")] = declared :=
    Except.ok.inj hdeclared
  obtain rfl : [("tag", "a"), ("name", "y"), ("tag", "b"), ("size", "1")] = all :=
    Except.ok.inj hall
  exact ⟨rfl, _, hbind, rfl, hiff.2 (by decide)⟩

/-- Options that contribute a field that is declared twice. -/
def retagging : List Options := [⟨[], [], [("tag", "c")]⟩]

/-- **A field that is declared twice is overridden in its first place only.**
The serializer is given both the value of the option and the second declared
one, and as a JSON object the payload has the declared value: nothing is left
of the option. -/
theorem fields_stale :
    ∃ r, bind Serializer.builtin "http://h" (creation "json") [.text "w"] retagging = .ok r ∧
      allFields retagging = [("tag", "c")] ∧
      payloadFields [.text "w"] retagging [⟨"tag", .fixed "a"⟩,
        ⟨"name", .argument 0 true none⟩, ⟨"tag", .fixed "b"⟩] =
          .ok [("tag", "c"), ("name", "w"), ("tag", "b")] ∧
      under "tag" [("tag", "c"), ("name", "w"), ("tag", "b")] = [("tag", "c"), ("tag", "b")] ∧
      r.payload = some ⟨Utf8.ofString "\x7b\"tag\":\"b\",\"name\":\"w\"\x7d", "text/plain"⟩ := by
  refine ⟨_, rfl, rfl, rfl, by decide, rfl⟩

end Binding

end RestCall

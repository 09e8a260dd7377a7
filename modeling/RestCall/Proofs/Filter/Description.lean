import RestCall.Proofs.Binding.Stages
import RestCall.Proofs.Filter.Derivation
import RestCall.Proofs.Filter.Untouched
/-!
# RestCall — the headers that describe a payload

Binding sets the type and the length of a payload after everything that an
operation or the options of a call declare among the headers, so each of them
stands there once and is true, whatever was declared and in whatever case it
was spelled. The built-in filters write headers of other names and leave the
payload alone. So one chain of them keeps the description (`apply`), and with
it any number of chains, one after the other (`applyEach`).
-/

namespace RestCall

/-! ## Headers of other names -/

/-- **What is not of another class** is found among the other entries too. -/
theorem Entries.filter_removeBy_of_apart {same other : String → Bool} {entries : Entries}
    (h : Apart same other) :
    (removeBy other entries).filter (fun e => same e.1) = entries.filter fun e => same e.1 := by
  refine List.filter_filter.trans (List.filter_congr fun e _ => ?_)
  cases hsame : same e.1 with
  | true => rw [h e.1 hsame]; rfl
  | false => rfl

namespace Headers

variable {h h' : Headers} {name name' value : String} {other : String → Bool}

/-- **Headers that are the same outside of a class** have the same values of a
name that is not of it. -/
theorem getAll_of_removeBy (hapart : Entries.Apart (Text.sameName name) other)
    (heq : h'.entries.removeBy other = h.entries.removeBy other) :
    h'.getAll name = h.getAll name := by
  rw [getAll, ← Entries.filter_removeBy_of_apart hapart, heq,
    Entries.filter_removeBy_of_apart hapart, getAll]

theorem getAll_set_of_not_sameName (hne : Text.sameName name name' = false) :
    (h.set name' value).getAll name = h.getAll name :=
  getAll_of_removeBy (Text.apart_sameName hne)
    (Entries.removeBy_setBy_of_within (.refl _) (Text.sameName_self name'))

end Headers

namespace Request

variable {r r' : Request} {p : Payload}

/-- Spellings of one name are of one filter or of none. -/
theorem apart_isFilterHeader {name : String} (h : isFilterHeader name = false) :
    Entries.Apart (Text.sameName name) isFilterHeader := by
  intro spelled hsame
  have hfold : Text.foldName name = Text.foldName spelled := beq_iff_eq.1 hsame
  simpa only [isFilterHeader, Text.sameName, hfold] using h

/-- **A request that describes its payload**: the type and the length in bytes
are each the one value of their header. -/
structure Describes (r : Request) (p : Payload) : Prop where
  payload : r.payload = some p
  type : r.headers.getAll "Content-Type" = [p.contentType]
  length : r.headers.getAll "Content-Length" = [toString p.data.length]

/-- Whatever is the same outside of what filters write describes its payload. -/
theorem Describes.sameOutside {key : String → Bool} (h : r.Describes p)
    (hsame : r.SameOutside isFilterHeader key r') : r'.Describes p where
  payload := hsame.payload.trans h.payload
  type := (Headers.getAll_of_removeBy (apart_isFilterHeader (by decide)) hsame.headers).trans h.type
  length :=
    (Headers.getAll_of_removeBy (apart_isFilterHeader (by decide)) hsame.headers).trans h.length

end Request

/-! ## Binding -/

namespace Binding

variable {serializers : Family Serializer} {endpoint : String} {o : Operation}
variable {args : List Argument} {options : List Options} {r : Request} {p : Payload}

/-- A payload has the type that its operation declares. -/
theorem contentType_of_payload (h : payload serializers o args options = .ok (some p)) :
    ∃ spec, o.payload = some spec ∧ p.contentType = spec.contentType := by
  unfold payload at h
  split at h
  · split at h <;> cases h
  · rename_i spec hspec
    obtain ⟨s, -, h⟩ := bind_eq_ok_iff.1 h
    obtain ⟨data, -, h⟩ := bind_eq_ok_iff.1 h
    obtain rfl : Payload.mk data spec.contentType = p := Option.some.inj (Except.ok.inj h)
    exact ⟨spec, hspec, rfl⟩

/-- **A bound request** describes its payload. -/
theorem describes_of_bind (h : bind serializers endpoint o args options = .ok r)
    (hp : r.payload = some p) : r.Describes p := by
  obtain ⟨-, s, -, rfl⟩ := bound_iff.1 h
  have hpayload : s.payload = some p := hp
  constructor
  · exact hp
  · rw [Stages.request, hpayload, describePayload,
      Headers.getAll_set_of_not_sameName (by decide), Headers.getAll_set]
  · rw [Stages.request, hpayload, describePayload, Headers.getAll_set]

end Binding

/-! ## Filters -/

namespace FilterChain

variable {c : FilterChain} {m : Moment} {steps : List (FilterChain × Moment)}
variable {r r' : Request} {p : Payload}

/-- A request after several chains, each applied at its moment to what the one
before it made of the request. -/
def applyEach (steps : List (FilterChain × Moment)) (r : Request) : Except Fault Request :=
  steps.foldlM (fun r step => step.1.apply step.2 r) r

theorem describes_of_apply (hbuiltin : c.Builtin) (h : c.apply m r = .ok r')
    (hr : r.Describes p) : r'.Describes p := by
  obtain ⟨bs, -, rfl⟩ := hbuiltin.exists_writeAll h
  exact hr.sameOutside (BuiltinFilter.sameOutside_writeAll fun b _ =>
    ⟨b.within_isFilterHeader, b.within_isFilterKey⟩)

theorem describes_of_applyEach (hbuiltin : ∀ step ∈ steps, step.1.Builtin)
    (h : applyEach steps r = .ok r') (hr : r.Describes p) : r'.Describes p := by
  induction steps generalizing r with
  | nil => exact Except.ok.inj h ▸ hr
  | cons step steps ih =>
    rw [List.forall_mem_cons] at hbuiltin
    rw [applyEach, List.foldlM_cons] at h
    obtain ⟨next, hnext, hrest⟩ := bind_eq_ok_iff.1 h
    exact ih hbuiltin.2 hrest (describes_of_apply hbuiltin.1 hnext hr)

open Binding

variable {serializers : Family Serializer} {endpoint : String} {o : Operation}
variable {args : List Argument} {options : List Options}

/-- **The headers that describe a payload are unique and true.** A call that is
bound with a payload, and filtered however often by whatever built-in filters,
has one content type among its headers, the one that the operation declares for
its payload, and one content length, the number of bytes of the payload. -/
theorem bind_applyEach_describes (hbind : bind serializers endpoint o args options = .ok r)
    (hp : r.payload = some p) (hbuiltin : ∀ step ∈ steps, step.1.Builtin)
    (happly : applyEach steps r = .ok r') :
    r'.Describes p ∧ ∃ spec, o.payload = some spec ∧ p.contentType = spec.contentType := by
  refine ⟨describes_of_applyEach hbuiltin happly (describes_of_bind hbind hp), ?_⟩
  obtain ⟨-, s, hs, rfl⟩ := bound_iff.1 hbind
  have hpayload : s.payload = some p := hp
  exact contentType_of_payload (hpayload ▸ hs.payload)

/-- An operation that declares headers of its own for type and length, some of
them twice, beside a payload of one field. -/
def mislabelled : Operation :=
  { id := "drives.create", method := "POST", path := ⟨"/drives", [.literal "/drives"]⟩
    query := [], accept := some "text/plain"
    headers := [⟨"content-length", .fixed "0"⟩, ⟨"CONTENT-TYPE", .fixed "a/b"⟩,
      ⟨"Content-Type", .argument 0 true none⟩, ⟨"X-Trace", .fixed "1"⟩]
    payload := some ⟨.fields [⟨"name", .argument 1 true none⟩], "key_values", "text/plain"⟩
    endpointArgument := none, parser := "json", mapper := none, filters := []
    unwrapping := none, literal := [], takesOptions := true }

/-- Options that describe the payload otherwise. -/
def relabelled : List Options :=
  [⟨[], [("Content-length", "7"), ("content-type", "e/f")], []⟩]

/-- A chain with one filter twice, applied at two moments. -/
def twice : List (FilterChain × Moment) :=
  let dated : FilterChain := ⟨[("date_header", Filter.dateHeader),
    ("auth_token", Filter.authToken), ("date_header", Filter.dateHeader)]⟩
  [(dated, ⟨some ⟨"user", "key", some "t"⟩, 0⟩), (dated, ⟨some ⟨"user", "key", some "u"⟩, 60⟩)]

/-- The payload has seven characters, which are nine bytes. -/
theorem bind_applyEach_describes_mislabelled :
    ∃ r r' : Request,
      bind Serializer.builtin "http://h" mislabelled [.text "c/d", .text "çé"] relabelled = .ok r ∧
      r.payload = some ⟨Utf8.ofString "name çé", "text/plain"⟩ ∧
      (∀ step ∈ twice, step.1.Builtin) ∧ applyEach twice r = .ok r' ∧
      r'.Describes ⟨Utf8.ofString "name çé", "text/plain"⟩ ∧
      r'.headers.entries = [("Accept", "text/plain"), ("content-length", "9"),
        ("CONTENT-TYPE", "text/plain"), ("X-Trace", "1"),
        ("Date", "Thu, 01 Jan 1970 00:01:00 GMT"), ("X-Auth-Token", "u")] := by
  have hbuiltin : ∀ step ∈ twice, step.1.Builtin := by
    have hdated := builtin_of_resolve "drives.create"
      ["date_header", "auth_token", "date_header"] rfl
    exact List.forall_mem_cons.2 ⟨hdated, List.forall_mem_singleton.2 hdated⟩
  have hbind : bind Serializer.builtin "http://h" mislabelled [.text "c/d", .text "çé"] relabelled =
      .ok ⟨"drives.create", "POST", "http://h/drives", ⟨[]⟩,
        ⟨[("Accept", "text/plain"), ("content-length", "9"), ("CONTENT-TYPE", "text/plain"),
          ("X-Trace", "1")]⟩,
        some ⟨Utf8.ofString "name çé", "text/plain"⟩, [], []⟩ := rfl
  obtain ⟨hdescribes, -⟩ := bind_applyEach_describes hbind rfl hbuiltin rfl
  exact ⟨_, _, hbind, rfl, hbuiltin, rfl, hdescribes, rfl⟩

end FilterChain

end RestCall

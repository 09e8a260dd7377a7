import RestCall.Proofs.Binding.Stages
import RestCall.Proofs.Request.Overriding
/-!
# RestCall — what options override

The options of a call are applied to what its operation declares, all of
them one after another. Query keys are compared as they are and header
names without regard to case; under either comparison what the options add
overrides what is declared (`bind_overridden`). The two headers that
describe a payload are set after the options and are left out of account
when there is one. It does not matter how the additions are spread over
several options.
-/

namespace RestCall

/-! ## Queries and headers -/

namespace Options

variable {options : List Options}

/-- One options object that contributes what several do together. -/
def combined (options : List Options) : Options :=
  ⟨allQuery options, allHeaders options, allFields options⟩

theorem entries_overQuery (q : Query) :
    (overQuery options q).entries = Entries.setAll id (allQuery options) q.entries := by
  rw [overQuery]
  generalize allQuery options = added
  induction added generalizing q with
  | nil => rfl
  | cons e rest ih => exact ih (q.set e.1 e.2)

theorem entries_overHeaders (h : Headers) :
    (overHeaders options h).entries =
      Entries.setAll Text.foldName (allHeaders options) h.entries := by
  rw [overHeaders]
  generalize allHeaders options = added
  induction added generalizing h with
  | nil => rfl
  | cons e rest ih => exact ih (h.set e.1 e.2)

theorem all_combined (options : List Options) :
    allQuery [combined options] = allQuery options ∧
      allHeaders [combined options] = allHeaders options ∧
      allFields [combined options] = allFields options :=
  ⟨List.flatMap_singleton .., List.flatMap_singleton .., List.flatMap_singleton ..⟩

end Options

namespace Binding

open Entries

variable {serializers : Family Serializer} {endpoint : String} {o : Operation}
variable {args : List Argument} {options : List Options} {r : Request}

/-! ## Headers that describe a payload -/

/-- Entries without those that describe a payload. -/
def besidesPayload (entries : Entries) : Entries := removeBy Request.isPayloadHeader entries

theorem respects_isPayloadHeader : Respects Text.foldName Request.isPayloadHeader := by
  intro a b h
  have hfold : Text.foldName a = Text.foldName b := alike_iff.1 h
  simp only [Request.isPayloadHeader, Text.sameName, hfold]

theorem besidesPayload_set (h : Headers) {name : String} (value : String)
    (hname : Request.isPayloadHeader name = true) :
    besidesPayload (h.set name value).entries = besidesPayload h.entries := by
  refine removeBy_setBy_of_within (fun other ha => ?_) hname
  rw [← respects_isPayloadHeader name other ha, hname]

/-- Describing a payload touches no other headers. -/
theorem besidesPayload_describePayload (h : Headers) (p : Option Payload) :
    besidesPayload (describePayload h p).entries = besidesPayload h.entries := by
  cases p with
  | none => rfl
  | some p =>
    have htype : Request.isPayloadHeader "Content-Type" = true := by decide
    have hlength : Request.isPayloadHeader "Content-Length" = true := by decide
    rw [describePayload, besidesPayload_set _ _ hlength, besidesPayload_set _ _ htype]

/-! ## Several options and one -/

theorem payload_combined (options : List Options) :
    payload serializers o args [Options.combined options] =
      payload serializers o args options := by
  obtain ⟨-, -, hfields⟩ := Options.all_combined options
  have hdata : ∀ s source, payloadData s args [Options.combined options] source =
      payloadData s args options source := by
    intro s source
    cases source with
    | argument index => rw [payloadData, payloadData, hfields]
    | fields fields => simp only [payloadData, payloadFields, Options.overFields, hfields]
  simp only [payload, hfields, hdata]

/-- **Several options bind as one** that contributes what they do together. -/
theorem bind_combined (hsome : options ≠ []) :
    bind serializers endpoint o args [Options.combined options] =
      bind serializers endpoint o args options := by
  obtain ⟨hquery, hheaders, -⟩ := Options.all_combined options
  have hempty : options.isEmpty = false := by simpa using hsome
  simp only [bind, bind?, List.isEmpty_cons, hempty, Options.overQuery, Options.overHeaders,
    hquery, hheaders, payload_combined]

/-! ## The law -/

/-- **What options add overrides what is declared**, in the query and among
the headers; with a payload, among the headers that do not describe it. And
several options bind as one that contributes what they do together. -/
theorem bind_overridden (hsome : options ≠ [])
    (h : bind serializers endpoint o args options = .ok r) :
    (∃ declared, entries args .query o.query = .ok declared ∧
      Overridden id declared (Options.allQuery options) r.query.entries) ∧
    (∃ own, entries args .header o.headers = .ok own ∧
      (r.payload = none → Overridden Text.foldName (declaredHeaders o own).entries
        (Options.allHeaders options) r.headers.entries) ∧
      Overridden Text.foldName (besidesPayload (declaredHeaders o own).entries)
        (besidesPayload (Options.allHeaders options)) (besidesPayload r.headers.entries)) ∧
    bind serializers endpoint o args [Options.combined options] = .ok r := by
  obtain ⟨-, s, hs, rfl⟩ := bound_iff.1 h
  refine ⟨⟨s.query, hs.query, ?_⟩, ⟨s.own, hs.own, fun hnone => ?_, ?_⟩, ?_⟩
  · have hquery : (s.request o options).query.entries =
        setAll id (Options.allQuery options) s.query := Options.entries_overQuery ⟨s.query⟩
    rw [hquery]
    exact overridden_setAll id s.query (Options.allQuery options)
  · have hpayload : s.payload = none := hnone
    have hheaders : (s.request o options).headers.entries =
        setAll Text.foldName (Options.allHeaders options) (declaredHeaders o s.own).entries := by
      rw [Stages.request, hpayload]
      exact Options.entries_overHeaders (declaredHeaders o s.own)
    rw [hheaders]
    exact overridden_setAll Text.foldName _ (Options.allHeaders options)
  · have hheaders : besidesPayload (s.request o options).headers.entries =
        setAll Text.foldName (besidesPayload (Options.allHeaders options))
          (besidesPayload (declaredHeaders o s.own).entries) := by
      rw [Stages.request, besidesPayload_describePayload, Options.entries_overHeaders]
      exact removeBy_setAll respects_isPayloadHeader _ _
    rw [hheaders]
    exact overridden_setAll Text.foldName _ (besidesPayload (Options.allHeaders options))
  · rw [bind_combined hsome]
    exact h

/-- An operation that declares entries of one name, in two spellings, and a
payload. -/
def listing : Operation :=
  { id := "servers.list", method := "POST", path := ⟨"/servers", [.literal "/servers"]⟩
    query := [⟨"page", .fixed "1"⟩, ⟨"sort", .fixed "id"⟩, ⟨"page", .fixed "2"⟩,
      ⟨"sort", .fixed "name"⟩]
    headers := [⟨"X-Trace", .fixed "a"⟩, ⟨"x-trace", .fixed "b"⟩], accept := some "text/plain"
    payload := some ⟨.fields [⟨"name", .fixed "x"⟩], "form", "text/plain"⟩
    endpointArgument := none, parser := "release_payload", mapper := none, filters := []
    unwrapping := none, literal := [], takesOptions := true }

/-- Two options that add some names more than once. -/
def pages : List Options :=
  [⟨[("page", "3"), ("zone", "a")], [("ACCEPT", "*/*"), ("content-type", "a/b")], [("size", "1")]⟩,
    ⟨[("zone", "b"), ("page", "4")], [("X-New", "n"), ("X-TRACE", "c")], []⟩]

theorem bind_overridden_pages :
    pages ≠ [] ∧ ∃ r, bind Serializer.builtin "http://h" listing [] pages = .ok r ∧
      r.query.entries = [("page", "4"), ("sort", "id"), ("sort", "name"), ("zone", "b")] ∧
      besidesPayload r.headers.entries = [("Accept", "*/*"), ("X-Trace", "c"), ("X-New", "n")] ∧
      Overridden id
        [("page", "1"), ("sort", "id"), ("page", "2"), ("sort", "name")]
        [("page", "3"), ("zone", "a"), ("zone", "b"), ("page", "4")] r.query.entries ∧
      bind Serializer.builtin "http://h" listing [] [Options.combined pages] = .ok r := by
  have hsome : pages ≠ [] := by decide
  have hbind : bind Serializer.builtin "http://h" listing [] pages = .ok ⟨"servers.list", "POST",
      "http://h/servers", ⟨[("page", "4"), ("sort", "id"), ("sort", "name"), ("zone", "b")]⟩,
      ⟨[("Accept", "*/*"), ("X-Trace", "c"), ("content-type", "text/plain"), ("X-New", "n"),
        ("Content-Length", "13")]⟩,
      some ⟨Utf8.ofString "name=x&size=1", "text/plain"⟩, [], []⟩ := rfl
  obtain ⟨⟨declared, hdeclared, hquery⟩, -, hcombined⟩ := bind_overridden hsome hbind
  obtain rfl : [("page", "1"), ("sort", "id"), ("page", "2"), ("sort", "name")] = declared :=
    Except.ok.inj hdeclared
  exact ⟨hsome, _, hbind, rfl, rfl, hquery, hcombined⟩

end Binding

end RestCall

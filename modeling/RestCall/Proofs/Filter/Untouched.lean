import RestCall.Proofs.Filter.Reapplication
/-!
# RestCall — what filters leave alone

A built-in filter writes the headers of one name, or the account and the
signature of the query (`ownHeader`, `ownKey`). Setting a name drops and
rewrites entries of that name only, so entries of other names are the same
ones afterwards, in the same order, however often a name occurs and in
whatever case it is spelled. `SameOutside` says this of two requests and two
classes of names, together with all that is neither header nor query. It
holds of what one filter writes, hence of what any number of them write, and
so of a chain (`apply_sameOutside`).
-/

namespace RestCall

namespace Request

variable {header header' key key' : String → Bool} {r r' r'' : Request}

/-- **Requests that are the same outside of some entries**: headers and query
parameters of other names are the same entries in the same order, and so is
all that is neither header nor query. -/
structure SameOutside (header key : String → Bool) (r r' : Request) : Prop where
  operation : r'.operation = r.operation
  method : r'.method = r.method
  endpoint : r'.endpoint = r.endpoint
  payload : r'.payload = r.payload
  filters : r'.filters = r.filters
  literal : r'.literal = r.literal
  headers : (r'.headers.entries.filter fun e => !header e.1) =
    r.headers.entries.filter fun e => !header e.1
  query : (r'.query.entries.filter fun e => !key e.1) =
    r.query.entries.filter fun e => !key e.1

namespace SameOutside

theorem refl (r : Request) : r.SameOutside header key r := by
  constructor <;> rfl

theorem trans (h : r.SameOutside header key r') (h' : r'.SameOutside header key r'') :
    r.SameOutside header key r'' where
  operation := h'.operation.trans h.operation
  method := h'.method.trans h.method
  endpoint := h'.endpoint.trans h.endpoint
  payload := h'.payload.trans h.payload
  filters := h'.filters.trans h.filters
  literal := h'.literal.trans h.literal
  headers := h'.headers.trans h.headers
  query := h'.query.trans h.query

/-- More names say less. -/
theorem mono (h : r.SameOutside header key r') (hheader : Entries.Within header header')
    (hkey : Entries.Within key key') : r.SameOutside header' key' r' :=
  { h with
    headers := Entries.removeBy_eq_of_within hheader h.headers
    query := Entries.removeBy_eq_of_within hkey h.query }

end SameOutside

/-- Whether a header is one that a built-in filter writes. -/
def isFilterHeader (name : String) : Bool :=
  Text.sameName "Authorization" name || Text.sameName "X-Auth-Token" name ||
    Text.sameName "Date" name

/-- Whether a query parameter is one that a built-in filter writes. -/
def isFilterKey (key : String) : Bool := Filter.accountKey == key || Filter.signatureKey == key

end Request

/-! ## One filter -/

namespace Filter

variable {header key : String → Bool} {name value : String} {r : Request} {c : Credentials}

/-- **A header that is set** touches no others. -/
theorem sameOutside_setHeader (h : Entries.Within (Text.sameName name) header) :
    r.SameOutside header key (setHeader name value r) where
  operation := rfl
  method := rfl
  endpoint := rfl
  payload := rfl
  filters := rfl
  literal := rfl
  headers := Entries.removeBy_setBy_of_within h (h name (Text.sameName_self name))
  query := rfl

/-- **A query that is signed** has its other parameters left as they were. -/
theorem removeBy_signQuery {q : Query} (haccount : key accountKey = true)
    (hsignature : key signatureKey = true) :
    (signQuery c q).entries.removeBy key = q.entries.removeBy key := by
  have hwithin : ∀ name, key name = true → Entries.Within (name == ·) key := by
    intro name hname other heq
    rwa [← beq_iff_eq.1 heq]
  have hnamed : (named c q).entries.removeBy key = q.entries.removeBy key := by
    have hset : (named c q).entries.removeBy key =
        (q.remove signatureKey).entries.removeBy key :=
      Entries.removeBy_setBy_of_within (hwithin accountKey haccount) haccount
    rw [hset]
    exact Entries.removeBy_removeBy_of_within (hwithin signatureKey hsignature)
  calc (signQuery c q).entries.removeBy key
      = (named c q).entries.removeBy key ++
          Entries.removeBy key [(signatureKey, sign c.secret (stringToSign (named c q)))] :=
        Entries.removeBy_append
    _ = (named c q).entries.removeBy key ++ [] := by
        rw [Entries.removeBy_cons_of_same hsignature, Entries.removeBy_nil]
    _ = q.entries.removeBy key := by rw [List.append_nil, hnamed]

theorem sameOutside_signQuery (haccount : key accountKey = true)
    (hsignature : key signatureKey = true) :
    r.SameOutside header key { r with query := signQuery c r.query } where
  operation := rfl
  method := rfl
  endpoint := rfl
  payload := rfl
  filters := rfl
  literal := rfl
  headers := rfl
  query := removeBy_signQuery haccount hsignature

end Filter

namespace BuiltinFilter

variable {b : BuiltinFilter} {bs : List BuiltinFilter} {m : Moment} {r : Request}
variable {σ : BuiltinFilter → Moment}

/-- The headers that a filter writes. -/
def ownHeader : BuiltinFilter → String → Bool
  | basicAuth => Text.sameName "Authorization"
  | authToken => Text.sameName "X-Auth-Token"
  | querySigner => fun _ => false
  | dateHeader => Text.sameName "Date"

/-- The query parameters that a filter writes. -/
def ownKey : BuiltinFilter → String → Bool
  | querySigner => Request.isFilterKey
  | _ => fun _ => false

theorem within_isFilterHeader (b : BuiltinFilter) :
    Entries.Within b.ownHeader Request.isFilterHeader := by
  intro name h
  rw [Request.isFilterHeader, Bool.or_eq_true, Bool.or_eq_true]
  cases b with
  | basicAuth => exact .inl (.inl h)
  | authToken => exact .inl (.inr h)
  | querySigner => cases h
  | dateHeader => exact .inr h

theorem within_isFilterKey (b : BuiltinFilter) : Entries.Within b.ownKey Request.isFilterKey := by
  intro key h
  cases b with
  | querySigner => exact h
  | _ => cases h

/-- **What one filter writes** is its own. -/
theorem sameOutside_write (b : BuiltinFilter) (m : Moment) (r : Request) :
    r.SameOutside b.ownHeader b.ownKey ((b.mark m).write r) := by
  cases b with
  | querySigner => exact Filter.sameOutside_signQuery (by decide) (by decide)
  | basicAuth => exact Filter.sameOutside_setHeader fun _ h => h
  | authToken => exact Filter.sameOutside_setHeader fun _ h => h
  | dateHeader => exact Filter.sameOutside_setHeader fun _ h => h

/-! ## Several filters -/

/-- **What several filters write** is their own. -/
theorem sameOutside_writeAll {header key : String → Bool}
    (h : ∀ b ∈ bs, Entries.Within b.ownHeader header ∧ Entries.Within b.ownKey key) :
    r.SameOutside header key (writeAll σ bs r) := by
  induction bs generalizing r with
  | nil => exact .refl r
  | cons b bs ih =>
    rw [List.forall_mem_cons] at h
    obtain ⟨⟨hheader, hkey⟩, hrest⟩ := h
    have hfirst : r.SameOutside header key ((b.mark (σ b)).write r) :=
      (sameOutside_write b (σ b) r).mono hheader hkey
    rw [writeAll_cons]
    exact hfirst.trans (ih hrest)

end BuiltinFilter

namespace FilterChain

variable {m : Moment} {r r' : Request} {c : FilterChain}

/-- **What a chain has written**, when it succeeds, is what its filters write
in order. -/
theorem Builtin.exists_writeAll (hbuiltin : c.Builtin) (h : c.apply m r = .ok r') :
    ∃ bs : List BuiltinFilter, bs.map BuiltinFilter.filter = c.filters.map (·.2) ∧
      BuiltinFilter.writeAll (fun _ => m) bs r = r' := by
  obtain ⟨bs, hbs⟩ := hbuiltin.exists_filters
  refine ⟨bs, hbs, ?_⟩
  rw [apply, applyAll_eq hbs] at h
  split at h
  · cases h
  · exact Except.ok.inj h

/-- **Filters touch nothing else.** What a chain of built-in filters makes of a
request is that request, but for the headers that carry identity and secret,
the token and the date, and for the account and the signature of the query. -/
theorem apply_sameOutside (hbuiltin : c.Builtin) (h : c.apply m r = .ok r') :
    r.SameOutside Request.isFilterHeader Request.isFilterKey r' := by
  obtain ⟨bs, -, rfl⟩ := hbuiltin.exists_writeAll h
  exact BuiltinFilter.sameOutside_writeAll fun b _ =>
    ⟨b.within_isFilterHeader, b.within_isFilterKey⟩

/-- A request with headers and parameters of others between those that filters
write, some of them repeated and some spelled almost alike. -/
def crowded : Request :=
  { operation := "listZones", method := "POST", endpoint := "https://example.test/api",
    query := ⟨[("signature", "a"), ("zone", "1"), ("apiKey", "k"), ("APIKEY", "l"),
      ("zone", "2"), ("signature", "b"), ("zone", "1")]⟩,
    headers := ⟨[("DATE", "then"), ("Accept", "*/*"), ("authorization", "none"), ("Dated", "no"),
      ("x-auth-token", "t"), ("accept", "text/plain"), ("date", "later")]⟩,
    payload := some ⟨[0x7B, 0x7D], "application/json"⟩, filters := ["date_header"],
    literal := ['/'] }

/-- All built-in filters, and one of them again. -/
def complete : FilterChain :=
  ⟨[("date_header", Filter.dateHeader), ("query_signer", Filter.querySigner),
    ("auth_token", Filter.authToken), ("basic_auth", Filter.basicAuth),
    ("date_header", Filter.dateHeader)]⟩

theorem apply_sameOutside_crowded :
    complete.Builtin ∧
      ∃ r', complete.apply ⟨some ⟨"user", "key", some "u"⟩, 0⟩ crowded = .ok r' ∧
        crowded.SameOutside Request.isFilterHeader Request.isFilterKey r' ∧
        r'.headers.entries = [("DATE", "Thu, 01 Jan 1970 00:00:00 GMT"), ("Accept", "*/*"),
          ("authorization", "Basic dXNlcjprZXk="), ("Dated", "no"), ("x-auth-token", "u"),
          ("accept", "text/plain")] ∧
        (r'.query.entries.filter fun e => !Request.isFilterKey e.1) =
          [("zone", "1"), ("APIKEY", "l"), ("zone", "2"), ("zone", "1")] := by
  have hbuiltin : complete.Builtin := builtin_of_resolve "listZones"
    ["date_header", "query_signer", "auth_token", "basic_auth", "date_header"] rfl
  have hsame := apply_sameOutside hbuiltin
    (m := ⟨some ⟨"user", "key", some "u"⟩, 0⟩) (r := crowded) rfl
  exact ⟨hbuiltin, _, rfl, hsame, rfl, hsame.query.trans rfl⟩

end FilterChain

end RestCall

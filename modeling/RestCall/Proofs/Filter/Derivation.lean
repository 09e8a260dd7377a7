import RestCall.Proofs.Filter.Reapplication
/-!
# RestCall — what a filtered request carries

The filters of a chain read credentials one by one, and all of them read
those of one moment. So whatever a chain of built-in filters leaves in
headers and query that depends on credentials is derived from the same
ones, and when there are none the first filter that needs some ends the
chain.
-/

namespace RestCall

/-- **What is derived from credentials** in a request that the named filters
have completed: identity and secret in one header, the token in another,
the account in the query, and a signature of all its other parameters. -/
structure Request.DerivedFrom (c : Credentials) (ids : List String) (r : Request) : Prop where
  authorization : "basic_auth" ∈ ids →
    r.headers.getAll "Authorization" = [Filter.basicValue c.identity c.secret]
  token : "auth_token" ∈ ids →
    ∃ token, c.token = some token ∧ r.headers.getAll "X-Auth-Token" = [token]
  account : "query_signer" ∈ ids →
    r.query.entries.filter (Filter.accountKey == ·.1) = [(Filter.accountKey, c.identity)]
  signature : "query_signer" ∈ ids →
    r.query.entries.filter (Filter.signatureKey == ·.1) =
      [(Filter.signatureKey,
        Filter.sign c.secret (Filter.stringToSign (r.query.remove Filter.signatureKey)))]

theorem Headers.getAll_set (h : Headers) (name value : String) :
    (h.set name value).getAll name = [value] := by
  obtain ⟨key, -, hfilter⟩ :=
    Entries.exists_filter_setBy value h.entries (Text.sameName_self name)
  rw [getAll, set, hfilter]
  rfl

/-- A header that is set to what it holds stands there once. -/
theorem Filter.getAll_of_setHeader {name value : String} {r : Request}
    (h : setHeader name value r = r) : r.headers.getAll name = [value] :=
  (congrArg (fun r : Request => r.headers.getAll name) h).symm.trans (Headers.getAll_set _ _ _)

/-- **A query that is signed** names its account and holds a signature of the
rest, each once. -/
theorem Filter.signed_of_signQuery {c : Credentials} {q : Query} (h : signQuery c q = q) :
    q.entries.filter (accountKey == ·.1) = [(accountKey, c.identity)] ∧
    q.entries.filter (signatureKey == ·.1) =
      [(signatureKey, sign c.secret (stringToSign (q.remove signatureKey)))] := by
  have hrest : q.remove signatureKey = named c q :=
    (congrArg (fun q : Query => q.remove signatureKey) h).symm.trans remove_signQuery
  rw [hrest]
  exact ⟨(congrArg (fun q : Query => q.entries.filter (accountKey == ·.1)) h).symm.trans
      filter_account_signQuery,
    (congrArg (fun q : Query => q.entries.filter (signatureKey == ·.1)) h).symm.trans
      filter_signature_signQuery⟩

namespace BuiltinFilter

variable {b : BuiltinFilter} {bs : List BuiltinFilter} {m : Moment} {r : Request}
variable {c : Credentials}

theorem id_injective : Function.Injective BuiltinFilter.id := by
  intro b b' h
  cases b <;> cases b' <;> first | rfl | exact absurd h (by decide)

theorem mem_of_id_mem (h : b.id ∈ bs.map BuiltinFilter.id) : b ∈ bs :=
  (List.mem_map_of_injective id_injective).1 h

/-- **A filter that needs credentials** lacks nothing only where there are
some. -/
theorem exists_credentials (hb : b ≠ dateHeader) (h : b.lack? m = none) :
    ∃ c, m.credentials = some c := by
  obtain ⟨credentials, now⟩ := m
  cases credentials with
  | some c => exact ⟨c, rfl⟩
  | none => cases b <;> first | exact absurd rfl hb | cases h

theorem lack?_of_none (hb : b ≠ dateHeader) (h : m.credentials = none) :
    b.lack? m = some (Filter.lack b.id "no credentials available") := by
  obtain ⟨credentials, now⟩ := m
  obtain rfl : credentials = none := h
  cases b <;> first | exact absurd rfl hb | rfl

/-- **What a filter has written stands there** after all of them. -/
theorem write_mark (h : b ∈ bs) :
    (b.mark m).write (writeAll (fun _ => m) bs r) = writeAll (fun _ => m) bs r := by
  rw [write_writeAll h, Function.update_eq_self]

theorem exists_token (hc : m.credentials = some c) (h : authToken.lack? m = none) :
    ∃ token, c.token = some token := by
  rw [← Option.ne_none_iff_exists']
  simpa [lack?, hc] using h

/-- **What filters write** is derived from the credentials of their moment. -/
theorem derived_writeAll (hc : m.credentials = some c) (h : ∀ b ∈ bs, b.lack? m = none) :
    (writeAll (fun _ => m) bs r).DerivedFrom c (bs.map BuiltinFilter.id) := by
  have haccount : account m = c := by rw [account, hc, Option.getD_some]
  have hsigned : querySigner ∈ bs → Filter.signQuery c (writeAll (fun _ => m) bs r).query =
      (writeAll (fun _ => m) bs r).query := by
    intro hmem
    rw [← haccount]
    exact congrArg Request.query (write_mark hmem)
  constructor
  · intro hid
    have hmem : basicAuth ∈ bs := mem_of_id_mem hid
    rw [← haccount]
    exact Filter.getAll_of_setHeader (write_mark hmem)
  · intro hid
    have hmem : authToken ∈ bs := mem_of_id_mem hid
    obtain ⟨token, htoken⟩ := exists_token hc (h authToken hmem)
    have hwritten := Filter.getAll_of_setHeader (write_mark (m := m) (r := r) hmem)
    rw [haccount, htoken] at hwritten
    exact ⟨token, htoken, hwritten⟩
  · intro hid
    exact (Filter.signed_of_signQuery (hsigned (mem_of_id_mem hid))).1
  · intro hid
    exact (Filter.signed_of_signQuery (hsigned (mem_of_id_mem hid))).2

end BuiltinFilter

/-! ## Chains -/

namespace FilterChain

variable {m : Moment} {r r' : Request} {family : Family Filter} {operation : String}
variable {ids : List String} {chain : FilterChain}

/-- Whether names stand for the filters that are built in under them. -/
def NamesBuiltin (family : Family Filter) (ids : List String) : Prop :=
  ∀ id ∈ ids, family.find? id = Filter.builtin.find? id

/-- Whether one of the names is that of a filter that needs credentials. -/
def NeedsCredentials (ids : List String) : Prop :=
  ∃ b : BuiltinFilter, b ≠ .dateHeader ∧ b.id ∈ ids

/-- The built-in filters of a chain that is resolved. -/
theorem exists_of_resolve (hids : NamesBuiltin family ids)
    (h : resolve family operation ids = .ok chain) :
    ∃ bs : List BuiltinFilter, bs.map BuiltinFilter.id = ids ∧
      bs.map BuiltinFilter.filter = chain.filters.map (·.2) := by
  induction ids generalizing chain with
  | nil =>
    obtain rfl : (⟨[]⟩ : FilterChain) = chain := Except.ok.inj h
    exact ⟨[], rfl, rfl⟩
  | cons id ids ih =>
    rw [NamesBuiltin, List.forall_mem_cons] at hids
    rw [resolve_cons] at h
    obtain ⟨filter, hfilter, hrest⟩ := bind_eq_ok_iff.1 h
    obtain ⟨rest, hc, hchain⟩ := bind_eq_ok_iff.1 hrest
    obtain rfl : (⟨(id, filter) :: rest.filters⟩ : FilterChain) = chain := Except.ok.inj hchain
    obtain ⟨b, rfl, rfl⟩ := BuiltinFilter.exists_of_find?
      (hids.1.symm.trans (Family.resolve_eq_ok_iff.1 hfilter))
    obtain ⟨bs, rfl, hbs⟩ := ih hids.2 hc
    exact ⟨b :: bs, rfl, by rw [List.map_cons, hbs, List.map_cons]⟩

/-- **A request that has been filtered** is derived from the credentials of
the moment, where its filters need some. -/
theorem derived_of_apply (hids : NamesBuiltin family ids)
    (h : resolve family operation ids = .ok chain) (hneeds : NeedsCredentials ids)
    (happly : chain.apply m r = .ok r') :
    ∃ c, m.credentials = some c ∧ r'.DerivedFrom c ids := by
  obtain ⟨bs, rfl, hbs⟩ := exists_of_resolve hids h
  obtain ⟨b, hb, hmem⟩ := hneeds
  rw [apply, applyAll_eq hbs] at happly
  split at happly
  · cases happly
  · rename_i hnone
    rw [List.findSome?_eq_none_iff] at hnone
    obtain ⟨c, hc⟩ :=
      BuiltinFilter.exists_credentials hb (hnone b (BuiltinFilter.mem_of_id_mem hmem))
    rw [← Except.ok.inj happly]
    exact ⟨c, hc, BuiltinFilter.derived_writeAll hc hnone⟩

/-- **Without credentials** the first filter that needs some ends the chain. -/
theorem refused_of_apply (hids : NamesBuiltin family ids)
    (h : resolve family operation ids = .ok chain) (hneeds : NeedsCredentials ids)
    (hnone : m.credentials = none) :
    ∃ b : BuiltinFilter, b ≠ .dateHeader ∧ b.id ∈ ids ∧ chain.apply m r =
      .error (.filter "no credentials available" ⟨some r.operation, none, none, some b.id⟩) := by
  obtain ⟨bs, rfl, hbs⟩ := exists_of_resolve hids h
  obtain ⟨b, hb, hmem⟩ := hneeds
  rw [apply, applyAll_eq hbs]
  cases hfirst : bs.findSome? (BuiltinFilter.lack? m) with
  | none =>
    rw [List.findSome?_eq_none_iff] at hfirst
    have hlack := hfirst b (BuiltinFilter.mem_of_id_mem hmem)
    rw [BuiltinFilter.lack?_of_none hb hnone] at hlack
    cases hlack
  | some fault =>
    obtain ⟨b', hb', hlack⟩ := List.exists_of_findSome?_eq_some hfirst
    have hne : b' ≠ .dateHeader := by
      rintro rfl
      cases hlack
    rw [BuiltinFilter.lack?_of_none hne hnone] at hlack
    cases hlack
    exact ⟨b', hne, List.mem_map_of_mem hb', rfl⟩

end FilterChain

end RestCall

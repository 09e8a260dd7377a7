import RestCall.Proofs.Binding.Stages
import RestCall.Proofs.Client.Assembly
import RestCall.Proofs.Url.Scheme
/-!
# RestCall — clients whose operations have an address

An operation that takes no endpoint from its arguments is addressed by the
endpoint of the client. A client that has such an operation has been given
an endpoint, and one that is not the empty text is an absolute URL
(`addressed`). Requests of the operation have its scheme, whatever is cut
off at its end and whatever path follows. The empty text is let through:
the operation is then addressed by its path alone (`unaddressed`).
-/

namespace RestCall

/-- **An address keeps its scheme** when it is joined with a path. -/
theorem Binding.scheme_of_joined {endpoint path : String} {u : Url}
    (h : Url.parse endpoint = .ok u) :
    ∃ rest, Url.scheme? (Url.trimmed (trimSlashes endpoint ++ path).toList) =
      some (u.scheme, rest) := by
  obtain ⟨rest, hscheme⟩ := Url.scheme_of_parse h
  rw [String.toList_append, trimSlashes, String.toList_ofList]
  exact Url.scheme?_trimEndOf (by decide) path.toList hscheme

/-- The endpoint of a request whose operation takes none from its arguments. -/
theorem Binding.endpoint_of_bind {serializers : Family Serializer} {endpoint : String}
    {o : Operation} {args : List Argument} {options : List Options} {r : Request}
    (hnone : o.endpointArgument = none) (h : bind serializers endpoint o args options = .ok r) :
    ∃ path, Binding.path o args = .ok path ∧ r.endpoint = trimSlashes endpoint ++ path := by
  obtain ⟨-, s, hs, rfl⟩ := bound_iff.1 h
  have hbase := hs.base
  rw [base, hnone] at hbase
  refine ⟨s.path, hs.path, ?_⟩
  rw [Stages.request, ← Except.ok.inj hbase]

namespace Assembly

variable {a : Assembly} {env : Environment} {client : Client} {o : Operation}

/-- **An endpoint that passes** has been given, and is empty or a URL; where
none is given, no operation needs it, and the empty text stands in. -/
theorem checkedEndpoint_cases {s : Settings} {c : Catalogue} {endpoint : String}
    (h : a.checkedEndpoint s c = .ok endpoint) :
    (endpoint = "" ∧ ∀ o ∈ c.operations, o.endpointArgument ≠ none) ∨
      (a.givenEndpoint s = some endpoint ∧
        (endpoint = "" ∨ ∃ u, Url.parse endpoint = .ok u)) := by
  rw [checkedEndpoint] at h
  split at h
  · split at h
    · cases h
    · rename_i hfind
      rw [List.find?_eq_none] at hfind
      refine .inl ⟨(Except.ok.inj h).symm, fun o ho hnone => ?_⟩
      exact absurd (by rw [hnone]; rfl) (hfind o ho)
  · rename_i given hgiven
    right
    rw [hgiven]
    split at h
    · rename_i hempty
      cases h
      exact ⟨rfl, .inl (String.isEmpty_iff.1 hempty)⟩
    · split at h
      · rename_i u hu
        cases h
        exact ⟨rfl, .inr ⟨u, hu⟩⟩
      · cases h

theorem given_of_checkedEndpoint {s : Settings} {c : Catalogue} {endpoint : String}
    (h : a.checkedEndpoint s c = .ok endpoint) (ho : o ∈ c.operations)
    (hnone : o.endpointArgument = none) :
    a.givenEndpoint s = some endpoint ∧ (endpoint = "" ∨ ∃ u, Url.parse endpoint = .ok u) := by
  rcases checkedEndpoint_cases h with ⟨-, hown⟩ | hgiven
  · exact absurd hnone (hown o ho)
  · exact hgiven

/-- An endpoint that is a URL passes. -/
theorem checkedEndpoint_of_given {s : Settings} {endpoint : String} {u : Url} (c : Catalogue)
    (hgiven : a.givenEndpoint s = some endpoint) (hu : Url.parse endpoint = .ok u) :
    a.checkedEndpoint s c = .ok endpoint := by
  rw [checkedEndpoint, hgiven]
  dsimp only
  split
  · rfl
  · rw [hu]

/-- **A client can address its operations** unless the endpoint it is given
is the empty text: where an operation takes none from its arguments, the
endpoint is the one that is given, it is an absolute URL, and each request
of the operation joins it with the path and has its scheme. -/
theorem addressed (h : a.build env = .ok client) (hgiven : a.givenEndpoint a.settings ≠ some "")
    (ho : o ∈ client.catalogue.operations) (hnone : o.endpointArgument = none) :
    a.givenEndpoint a.settings = some client.endpoint ∧ client.endpoint ≠ "" ∧
    ∃ u, Url.parse client.endpoint = .ok u ∧
      ∀ args options r,
        Binding.bind client.serializers client.endpoint o args options = .ok r →
        (∃ path, Binding.path o args = .ok path ∧
          r.endpoint = Binding.trimSlashes client.endpoint ++ path) ∧
        ∃ rest, Url.scheme? (Url.trimmed r.endpoint.toList) = some (u.scheme, rest) := by
  -- what the environment says is not about the endpoint
  obtain ⟨hsome, hurl⟩ : a.givenEndpoint a.settings = some client.endpoint ∧ _ :=
    given_of_checkedEndpoint (build_eq_ok_iff.1 h).endpoint ho hnone
  have hne : client.endpoint ≠ "" := fun hempty => hgiven (hempty ▸ hsome)
  obtain ⟨u, hu⟩ := hurl.resolve_left hne
  refine ⟨hsome, hne, u, hu, fun args options r hr => ?_⟩
  obtain ⟨path, hpath, hendpoint⟩ := Binding.endpoint_of_bind hnone hr
  refine ⟨⟨path, hpath, hendpoint⟩, ?_⟩
  rw [hendpoint]
  exact Binding.scheme_of_joined hu

/-- An operation without an endpoint of its own. -/
def drives : Operation :=
  { id := "drives.list", method := "GET", path := ⟨"/drives/list", [.literal "/drives/list"]⟩
    query := [], headers := [], accept := none, payload := none, endpointArgument := none
    parser := "release_payload", mapper := none, filters := [], unwrapping := none, literal := []
    takesOptions := false }

/-- An assembly of this operation with an endpoint. -/
def listing (endpoint : String) : Assembly :=
  { start with operations := [drives], endpoint := some endpoint }

theorem addressed_local :
    ∃ client, (listing "http://[::1]:8080/api//").build [] = .ok client ∧
      (listing "http://[::1]:8080/api//").givenEndpoint Settings.standard ≠ some "" ∧
      drives ∈ client.catalogue.operations ∧ drives.endpointArgument = none ∧
      ∃ r, Binding.bind client.serializers client.endpoint drives [] [] = .ok r ∧
        r.endpoint = "http://[::1]:8080/api/drives/list" ∧
        ∃ rest, Url.scheme? (Url.trimmed r.endpoint.toList) = some ("http", rest) := by
  have hparse : Url.parse "http://[::1]:8080/api//" =
      .ok ⟨"http", some "[::1]:8080", some "[::1]", "/api//", none, none⟩ := by cbv
  have hbuild : (listing "http://[::1]:8080/api//").build [] = .ok
      { catalogue := ⟨[drives]⟩, endpoint := "http://[::1]:8080/api//"
        serializers := Serializer.builtin, filters := Filter.builtin, resolver := .builtin
        retry := .standard } :=
    build_eq_ok_iff.2 ⟨rfl, checkedEndpoint_of_given _ rfl hparse,
      List.forall_mem_singleton.2 rfl, fun hnone => (by cases hnone), rfl, rfl, rfl, rfl⟩
  obtain ⟨-, -, u, hu, hrequests⟩ :=
    addressed hbuild (by decide) (List.mem_singleton_self drives) rfl
  cases hparse.symm.trans hu
  obtain ⟨-, hscheme⟩ := hrequests [] [] _ rfl
  exact ⟨_, hbuild, by decide, List.mem_singleton_self drives, rfl, _, rfl, rfl, hscheme⟩

/-- **The empty endpoint is let through.** The client is built, and its
operation is addressed by a path that is no URL. -/
theorem unaddressed :
    ∃ client, (listing "").build [] = .ok client ∧ drives ∈ client.catalogue.operations ∧
      drives.endpointArgument = none ∧ client.endpoint = "" ∧
      ∃ r, Binding.bind client.serializers client.endpoint drives [] [] = .ok r ∧
        r.endpoint = "/drives/list" ∧ Url.parse r.endpoint = .error .relative :=
  ⟨_, rfl, List.mem_cons_self, rfl, rfl, _, rfl, rfl, rfl⟩

end Assembly

end RestCall

import RestCall.Proofs.Binding.Acceptance
import RestCall.Proofs.Client.Endpoint
import RestCall.Proofs.Request.Reading
import RestCall.Proofs.Url.Marks
/-!
# RestCall — addresses and their queries

The address of a request is its endpoint, and behind a question mark its
query, when it has one. So the endpoint must not bring a query along. An
endpoint that an argument gives is refused when it does; that of the client
only has to be a URL. What is put behind it holds no mark unless the
operation writes one itself: arguments and parameters are escaped. The
requests of an operation therefore have a query at most where it belongs,
exactly when the endpoint of the client is bare or an argument gives one
(`queryless`); a client with a query in its endpoint is built and puts the
path behind that query (`queryful`).
-/

namespace RestCall

open Url (Unmarked unmarked_append unmarked_cons unmarked_iff)

/-- Whether a URL has been read from a text. -/
def Url.IsParsed (u : Url) : Prop := ∃ s, parse s = .ok u

theorem Argument.isParsed_of_url? {a : Argument} {u : Url} (ha : ∀ v, a = .uri v → v.IsParsed)
    (h : a.url? = some u) : u.IsParsed := by
  by_cases huri : ∃ v, a = .uri v
  · obtain ⟨v, rfl⟩ := huri
    cases h
    exact ha _ rfl
  · rw [Binding.url?_of_ne_uri fun v hv => huri ⟨v, hv⟩] at h
    obtain ⟨text, -, hparse⟩ := Option.bind_eq_some_iff.1 h
    cases hu : Url.parse text with
    | error flaw =>
      rw [hu] at hparse
      cases hparse
    | ok v =>
      rw [hu] at hparse
      cases hparse
      exact ⟨text, hu⟩

/-! ## What is put behind an endpoint -/

/-- Whether an operation writes no mark itself: neither do the literals of
its path hold one nor are marks among the characters left unescaped. -/
structure Operation.WritesNoMark (o : Operation) : Prop where
  path : ∀ text, Token.literal text ∈ o.path.tokens → Unmarked text.toList
  literal : Unmarked o.literal

theorem Percent.unmarked_encodeComponent {skip : List Char} (h : Unmarked skip) (s : String) :
    Unmarked (encodeComponent skip s).toList := by
  obtain ⟨hquestion, hnumber⟩ := unmarked_iff.1 h
  exact unmarked_iff.2 ⟨Query.not_mem_encodeComponent (by decide) (by decide) hquestion s,
    Query.not_mem_encodeComponent (by decide) (by decide) hnumber s⟩

theorem Text.unmarked_join {sep : String} {pieces : List String} (hsep : Unmarked sep.toList)
    (h : ∀ piece ∈ pieces, Unmarked piece.toList) : Unmarked (join sep pieces).toList := by
  fun_induction join sep pieces with
  | case1 => decide
  | case2 piece => exact h piece (List.mem_singleton_self piece)
  | case3 piece rest _ ih =>
    rw [List.forall_mem_cons] at h
    rw [String.toList_append, String.toList_append, unmarked_append, unmarked_append]
    exact ⟨⟨h.1, hsep⟩, ih h.2⟩

theorem Query.unmarked_encode {skip : List Char} (h : Unmarked skip) (q : Query) :
    Unmarked (q.encode skip).toList := by
  refine Text.unmarked_join (by decide) fun piece hpiece => ?_
  obtain ⟨entry, -, rfl⟩ := List.mem_map.1 hpiece
  rw [toList_encodeEntry, unmarked_append, unmarked_cons]
  exact ⟨Percent.unmarked_encodeComponent h entry.1, by decide,
    Percent.unmarked_encodeComponent h entry.2⟩

/-- **An address has one question mark** where it has a query and none
otherwise, when its endpoint has none. -/
theorem Request.count_uri {r : Request} (hendpoint : Unmarked r.endpoint.toList)
    (hliteral : Unmarked r.literal) :
    r.uri.toList.count '?' = if r.query.entries.isEmpty then 0 else 1 := by
  have hbefore : r.endpoint.toList.count '?' = 0 :=
    List.count_eq_zero.2 (unmarked_iff.1 hendpoint).1
  have hbehind : (r.query.encode r.literal).toList.count '?' = 0 :=
    List.count_eq_zero.2 (unmarked_iff.1 (Query.unmarked_encode hliteral r.query)).1
  have hmark : "?".toList.count '?' = 1 := by decide
  unfold uri
  split
  · exact hbefore
  · simp only [String.toList_append, List.count_append, hbefore, hbehind, hmark]

namespace Binding

variable {serializers : Family Serializer} {endpoint text : String} {o : Operation}
variable {args : List Argument} {options : List Options} {r : Request}

theorem unmarked_rooted (h : Unmarked text.toList) : Unmarked (rooted text).toList := by
  unfold rooted
  split
  · exact h
  · exact h
  · rw [String.toList_append, unmarked_append]
    exact ⟨by decide, h⟩

/-- **A path is free of marks** when its operation writes none. -/
theorem unmarked_path (ho : o.WritesNoMark) (h : path o args = .ok text) :
    Unmarked text.toList := by
  obtain ⟨pieces, hpieces, hjoined⟩ := bind_eq_ok_iff.1 h
  cases hjoined
  refine unmarked_rooted (Text.unmarked_join (by decide) fun piece hpiece => ?_)
  obtain ⟨token, htoken, hpiece⟩ := exists_item_of_mapM hpieces hpiece
  cases token with
  | literal text =>
    cases hpiece
    exact ho.path _ htoken
  | slot name index =>
    rw [tokenText] at hpiece
    split at hpiece
    · cases hpiece
      exact Percent.unmarked_encodeComponent ho.literal _
    · cases hpiece

theorem unmarked_trimSlashes : Unmarked (trimSlashes text).toList ↔ Unmarked text.toList := by
  rw [trimSlashes, String.toList_ofList]
  exact Url.unmarked_trimEndOf_iff ⟨by decide, by decide⟩

/-! ## The endpoint -/

/-- **An endpoint that an argument gives** is free of marks. -/
theorem unmarked_of_endpointArgument {index : Nat} (hindex : o.endpointArgument = some index)
    (hargs : ∀ u, Argument.uri u ∈ args → u.IsParsed) (h : base endpoint o args = .ok text) :
    Unmarked text.toList := by
  rw [base, hindex] at h
  obtain ⟨u, hu, h⟩ := bind_eq_ok_iff.1 h
  obtain ⟨a, ha, hurl⟩ := endpointUrl_eq_ok_iff.1 hu
  have hmem : a ∈ args := List.mem_of_getElem? (given?_eq_some_iff.1 ha).1
  obtain ⟨s, hs⟩ : u.IsParsed := Argument.isParsed_of_url? (fun v hv => hargs v (hv ▸ hmem)) hurl
  split at h
  · rename_i hbare
    rw [← Except.ok.inj h]
    exact unmarked_trimSlashes.2 (Url.unmarked_text hs hbare)
  · cases h

end Binding

namespace Assembly

variable {a : Assembly} {env : Environment} {client : Client} {o : Operation}
variable {args : List Argument} {options : List Options} {r : Request}

/-- **A client that is built** has a URL for an endpoint, or the empty text. -/
theorem endpoint_of_build (h : a.build env = .ok client) :
    client.endpoint = "" ∨ ∃ u, Url.parse client.endpoint = .ok u := by
  rcases checkedEndpoint_cases (build_eq_ok_iff.1 h).endpoint with ⟨hempty, -⟩ | ⟨-, hpassed⟩
  · exact .inl hempty
  · exact hpassed

/-- **The endpoint of a client is free of marks** when it is bare. -/
theorem unmarked_endpoint_iff (h : a.build env = .ok client) :
    Unmarked client.endpoint.toList ↔
      ∀ u, Url.parse client.endpoint = .ok u → u.isBare = true := by
  rcases endpoint_of_build h with hempty | ⟨u, hu⟩
  · -- the empty text is no URL and holds no mark
    have hrelative : Url.parse "" = .error .relative := rfl
    have hnone : Unmarked "".toList := by decide
    rw [hempty, hrelative]
    exact ⟨fun _ u hu => (by cases hu), fun _ => hnone⟩
  · rw [hu]
    simp only [Except.ok.injEq, forall_eq', Url.isBare_iff_unmarked hu]

/-- **Requests have a query where it belongs and nowhere else.** The
operation writes no mark itself, and an argument that is a URL has been read
from a text. Then the endpoint of a request is free of marks exactly when an
argument gives it or the endpoint of the client is bare, and its address then
has one question mark if the query is not empty and none if it is. -/
theorem queryless (h : a.build env = .ok client) (ho : o.WritesNoMark)
    (hargs : ∀ u, Argument.uri u ∈ args → u.IsParsed)
    (hr : Binding.bind client.serializers client.endpoint o args options = .ok r) :
    (Unmarked r.endpoint.toList ↔ (o.endpointArgument = none →
        ∀ u, Url.parse client.endpoint = .ok u → u.isBare = true)) ∧
      (Unmarked r.endpoint.toList →
        r.uri.toList.count '?' = if r.query.entries.isEmpty then 0 else 1) := by
  obtain ⟨-, s, hs, rfl⟩ := Binding.bound_iff.1 hr
  refine ⟨?_, fun hendpoint => Request.count_uri hendpoint ho.literal⟩
  -- what follows the base is free of marks, so only the base can bring one along
  have hpath : Unmarked s.path.toList := Binding.unmarked_path ho hs.path
  have hjoined : Unmarked (s.base ++ s.path).toList ↔ Unmarked s.base.toList := by
    rw [String.toList_append, unmarked_append, and_iff_left hpath]
  change Unmarked (s.base ++ s.path).toList ↔ _
  rw [hjoined]
  have hbase := hs.base
  cases hindex : o.endpointArgument with
  | some index =>
    -- whatever the client's endpoint is, it is not read
    have hunmarked : Unmarked s.base.toList :=
      Binding.unmarked_of_endpointArgument hindex hargs hbase
    exact ⟨fun _ hnone => (by cases hnone), fun _ => hunmarked⟩
  | none =>
    rw [Binding.base, hindex] at hbase
    rw [← Except.ok.inj hbase, Binding.unmarked_trimSlashes, unmarked_endpoint_iff h]
    exact ⟨fun hbare _ => hbare, fun hbare => hbare rfl⟩

/-- An operation with a slot in its path and a fixed parameter. -/
def servers : Operation :=
  { id := "servers.get", method := "GET"
    path := ⟨"/servers/\x7bname\x7d", [.literal "/servers/", .slot "name" 0]⟩
    query := [⟨"expand", .fixed "disks?"⟩], headers := [], accept := none, payload := none
    endpointArgument := none, parser := "json", mapper := none, filters := []
    unwrapping := none, literal := ['~', ':'], takesOptions := false }

theorem writesNoMark_servers : servers.WritesNoMark := by
  refine ⟨fun text htext => ?_, by decide⟩
  have hliteral : text = "/servers/" := by simpa [servers] using htext
  rw [hliteral]
  decide

/-- An assembly of this operation with an endpoint. -/
def serving (endpoint : String) : Assembly :=
  { start with operations := [servers], endpoint := some endpoint }

theorem build_serving {endpoint : String} {u : Url} (hu : Url.parse endpoint = .ok u) :
    (serving endpoint).build [] = .ok
      { catalogue := ⟨[servers]⟩, endpoint := endpoint, serializers := Serializer.builtin
        filters := Filter.builtin, resolver := .builtin, retry := .standard } :=
  build_eq_ok_iff.2 ⟨rfl, checkedEndpoint_of_given _ rfl hu, List.forall_mem_singleton.2 rfl,
    fun hnone => (by cases hnone), rfl, rfl, rfl, rfl⟩

/-- The request of this operation for a name with marks in it. -/
def fetch (endpoint : String) : Request :=
  { operation := "servers.get", method := "GET"
    endpoint := Binding.trimSlashes endpoint ++ "/servers/a%3Fb%23c"
    query := ⟨[("expand", "disks?")]⟩, headers := .empty, payload := none, filters := []
    literal := ['~', ':'] }

theorem bind_servers (endpoint : String) :
    Binding.bind Serializer.builtin endpoint servers [.text "a?b#c"] [] =
      .ok (fetch endpoint) := by
  have hpath : Binding.path servers [.text "a?b#c"] = .ok "/servers/a%3Fb%23c" := by cbv
  exact Binding.bound_iff.2 ⟨.inl rfl,
    ⟨Binding.trimSlashes endpoint, "/servers/a%3Fb%23c", [("expand", "disks?")], [], none⟩,
    ⟨rfl, hpath, rfl, rfl, rfl⟩, rfl⟩

/-- Marks in an argument and in a parameter are escaped. -/
theorem queryless_servers :
    ∃ client, (serving "https://[::1]/v1/").build [] = .ok client ∧
      servers.WritesNoMark ∧
      ∃ r, Binding.bind client.serializers client.endpoint servers [.text "a?b#c"] [] = .ok r ∧
        r.uri = "https://[::1]/v1/servers/a%3Fb%23c?expand=disks%3F" ∧
        Unmarked r.endpoint.toList ∧ r.uri.toList.count '?' = 1 := by
  have hparse : Url.parse "https://[::1]/v1/" =
      .ok ⟨"https", some "[::1]", some "[::1]", "/v1/", none, none⟩ := by cbv
  have hargs : ∀ u, Argument.uri u ∈ [Argument.text "a?b#c"] → u.IsParsed := by
    intro u hu
    cases List.mem_singleton.1 hu
  have hbind := bind_servers "https://[::1]/v1/"
  obtain ⟨hendpoint, hcount⟩ :=
    queryless (build_serving hparse) writesNoMark_servers hargs hbind
  have hunmarked : Unmarked (fetch "https://[::1]/v1/").endpoint.toList := by
    refine hendpoint.2 fun _ u hu => ?_
    rw [← Except.ok.inj (hparse.symm.trans hu)]
    rfl
  exact ⟨_, build_serving hparse, writesNoMark_servers, _, hbind, by cbv, hunmarked,
    hcount hunmarked⟩

/-- **A query in the endpoint of a client is let through.** The client is
built, and the address of its operation has two question marks, the path
standing behind the first. -/
theorem queryful :
    ∃ client, (serving "https://[::1]/v1?tenant=1").build [] = .ok client ∧
      servers ∈ client.catalogue.operations ∧ servers.WritesNoMark ∧
      ∃ r, Binding.bind client.serializers client.endpoint servers [.text "a?b#c"] [] = .ok r ∧
        r.endpoint = "https://[::1]/v1?tenant=1/servers/a%3Fb%23c" ∧
        ¬ Unmarked r.endpoint.toList ∧ r.uri.toList.count '?' = 2 := by
  have hparse : Url.parse "https://[::1]/v1?tenant=1" =
      .ok ⟨"https", some "[::1]", some "[::1]", "/v1", some "tenant=1", none⟩ := by cbv
  have huri : (fetch "https://[::1]/v1?tenant=1").uri =
      "https://[::1]/v1?tenant=1/servers/a%3Fb%23c?expand=disks%3F" := by cbv
  refine ⟨_, build_serving hparse, List.mem_cons_self, writesNoMark_servers, _,
    bind_servers _, rfl, by decide, ?_⟩
  rw [huri]
  decide

end Assembly

end RestCall

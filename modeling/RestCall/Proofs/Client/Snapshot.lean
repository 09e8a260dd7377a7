import RestCall.Proofs.Binding.Stages
import RestCall.Proofs.Client.Uninterrupted
import RestCall.Proofs.Filter.Derivation
/-!
# RestCall — one snapshot of credentials for each request

Credentials may be replaced or withdrawn at any time, also while the filters
of a request are at work. Each attempt captures them once, when it has been
bound, and its filters read nothing else: whatever a request carries of
credentials is derived from those that were stored at that step of its
attempt, and what is stored later changes no request that has left its
filters (`one_snapshot`).
-/

namespace RestCall

/-- The fault of an operation one of whose filters has found no credentials. -/
def Operation.Lacks (o : Operation) (fault : Fault) : Prop :=
  ∃ b : BuiltinFilter, b ≠ .dateHeader ∧ b.id ∈ o.filters ∧
    fault = .filter "no credentials available" ⟨some o.id, none, none, some b.id⟩

/-- Whether an id stands for an operation whose filters are built in and need
credentials. -/
structure Client.Authenticates (c : Client) (id : String) (o : Operation) : Prop where
  describe : c.describe id = .ok o
  builtin : FilterChain.NamesBuiltin c.filters o.filters
  needs : FilterChain.NeedsCredentials o.filters

/-! ## What filters make of credentials -/

namespace Client

variable {c : Client} {id : String} {args : List Argument} {options : List Options}
variable {o o' : Operation} {m : Moment} {r : Request} {x : Except Fault Request}

/-- The filters that a call is bound to are those of its operation. -/
theorem Authenticates.resolved (hc : c.Authenticates id o)
    (h : c.Applies id args options o' m x) : ∃ chain r,
      FilterChain.resolve c.filters o.id o.filters = .ok chain ∧ r.operation = o.id ∧
        chain.apply m r = x := by
  obtain ⟨chain, r, hbound, happly⟩ := h
  obtain ⟨ho, hbind, hresolve⟩ := bound_eq_ok_iff.1 hbound
  obtain rfl : o = o' := Except.ok.inj (hc.describe.symm.trans ho)
  rw [Binding.filters_of_bind hbind] at hresolve
  exact ⟨chain, r, mapError_eq_ok_iff.1 hresolve, Binding.operation_of_bind hbind, happly⟩

theorem Authenticates.derived (hc : c.Authenticates id o)
    (h : c.Applies id args options o' m (.ok r)) :
    ∃ held, m.credentials = some held ∧ r.DerivedFrom held o.filters := by
  obtain ⟨chain, bound, hresolve, -, happly⟩ := hc.resolved h
  exact FilterChain.derived_of_apply hc.builtin hresolve hc.needs happly

theorem Authenticates.lacks (hc : c.Authenticates id o)
    (h : c.Applies id args options o' m x) (hnone : m.credentials = none) :
    ∃ fault, o.Lacks fault ∧ x = .error fault := by
  obtain ⟨chain, bound, hresolve, hoperation, happly⟩ := hc.resolved h
  obtain ⟨b, hb, hmem, hfault⟩ :=
    FilterChain.refused_of_apply hc.builtin hresolve hc.needs hnone
  rw [hoperation] at hfault
  exact ⟨_, ⟨b, hb, hmem, rfl⟩, happly.symm.trans hfault⟩

end Client

/-! ## What an attempt has to do with credentials -/

namespace Attempt

variable {c : Client} {a : Attempt} {o : Operation} {m : Moment} {r : Request}
variable {Q : Outcome → Prop} {stage : Stage}

theorem captured_of_left (hleft : stage.left? = some (m, r)) :
    stage.captured? = some m.credentials := by
  cases stage <;> first | (cases hleft; rfl) | cases hleft

/-- A request that has left the filters is what they have made of it. -/
theorem applies_of_left (h : a.stage.Reached Q c a.id a.args a.options)
    (hleft : a.stage.left? = some (m, r)) :
    ∃ o, c.Applies a.id a.args a.options o m (.ok r) := by
  cases hstage : a.stage with
  | prepared o =>
    rw [hstage] at h hleft
    cases hleft
    exact ⟨o, h⟩
  | sent o =>
    rw [hstage] at h hleft
    cases hleft
    exact ⟨o, h⟩
  | resolved o =>
    rw [hstage] at h hleft
    cases hleft
    exact ⟨o, h.1⟩
  | _ =>
    rw [hstage] at hleft
    cases hleft

/-- **Without credentials** nothing leaves the filters. -/
theorem left_of_captured_none (hc : c.Authenticates a.id o)
    (h : a.stage.Reached Q c a.id a.args a.options) (hnone : a.stage.captured? = some none) :
    a.stage.left? = none := by
  rw [Option.eq_none_iff_forall_ne_some]
  rintro ⟨m, r⟩ hleft
  have hm : m.credentials = none := Option.some.inj ((captured_of_left hleft).symm.trans hnone)
  obtain ⟨o', happlies⟩ := applies_of_left h hleft
  obtain ⟨fault, -, hfault⟩ := hc.lacks happlies hm
  cases hfault

/-- **Without credentials** the only result is that a filter lacks them. -/
theorem lacks_of_captured_none (hc : c.Authenticates a.id o)
    (h : a.stage.Reached Q c a.id a.args a.options) (hnone : a.stage.captured? = some none)
    {result : Except Fault Resolution} (hresult : a.stage.result? = some result) :
    ∃ fault, o.Lacks fault ∧ result = .error fault := by
  have hleft := left_of_captured_none hc h hnone
  cases hstage : a.stage with
  | unbound fault =>
    rw [hstage] at hnone
    cases hnone
  | refused o' m fault =>
    rw [hstage] at h hnone hresult
    obtain ⟨lacking, hlacks, hfault⟩ := hc.lacks h (Option.some.inj hnone)
    obtain rfl : fault = lacking := Except.error.inj hfault
    exact ⟨fault, hlacks, (Option.some.inj hresult).symm⟩
  | resolved =>
    rw [hstage] at hleft
    cases hleft
  | _ =>
    rw [hstage] at hresult
    cases hresult

end Attempt

/-! ## Credentials along a run -/

namespace Workload

variable {w : Workload} {m : Move} {moves : List Move} {a : Attempt} {i : ℕ}
variable {held : Option Credentials} {Q : Outcome → Prop}

/-- Whether an attempt has captured these credentials on the way: one of the
moves is its step from a call that is bound, and they were stored then. -/
def Captures (w : Workload) (moves : List Move) (i : ℕ) (held : Option Credentials) : Prop :=
  ∃ before after a o chain r, moves = before ++ .step i :: after ∧
    (w.run before).attempts[i]? = some a ∧ a.stage = .bound o chain r ∧
    stored w.session.credentials before = held

theorem Captures.concat (h : w.Captures moves i held) (m : Move) :
    w.Captures (moves ++ [m]) i held := by
  obtain ⟨before, after, a, o, chain, r, rfl, hrest⟩ := h
  exact ⟨before, after ++ [m], a, o, chain, r, by rw [List.append_assoc, List.cons_append], hrest⟩

/-- **What an attempt has captured** was stored when it did so. -/
theorem captures_of_captured (hstart : ∀ a ∈ w.attempts, a.stage.captured? = none)
    (h : (w.run moves).attempts[i]? = some a) (hc : a.stage.captured? = some held) :
    w.Captures moves i held := by
  induction moves using List.reverseRecOn generalizing a with
  | nil =>
    have hnone := hstart a (List.mem_of_getElem? h)
    rw [hc] at hnone
    cases hnone
  | append_singleton moves m ih =>
    rw [run_concat] at h
    rcases attempt_of_move h with hsame | ⟨b, rfl, hb, rfl⟩ | ⟨-, hcalled⟩
    · exact (ih hsame hc).concat m
    · -- it held them before this step, or this is the step that captured them
      rcases (b.step_next _).captured hc with hearlier | ⟨⟨o, chain, r, hbound⟩, hstored⟩
      · exact (ih hb hearlier).concat _
      · exact ⟨moves, [], b, o, chain, r, rfl, hb, hbound, credentials_run.symm.trans hstored⟩
    · rw [hcalled] at hc
      cases hc

/-- **An attempt without credentials**, where filters need some, comes to a
fault by steps of its own. -/
theorem refused_of_captured_none {o : Operation} (hQ : Outcome.Closed Q) (h : w.Sound Q)
    (ha : w.attempts[i]? = some a) (hc : w.session.client.Authenticates a.id o)
    (hnone : a.stage.captured? = some none) :
    ∃ stage fault, w.Comes i a w.session stage ∧ stage.result? = some (.error fault) ∧
      o.Lacks fault := by
  obtain ⟨stage, hcomes, hcaptured, hpast⟩ := comes_of_captured ha hnone
  obtain ⟨moves, honly, hsession, hattempt, -⟩ := id hcomes
  have hsteps : ∀ m ∈ moves, m.Within Q := by
    intro m hm
    rw [honly m hm]
    trivial
  have hreached := (sound_run hQ hsteps h).reached _ (List.mem_of_getElem? hattempt)
  rw [hsession] at hreached
  rcases hpast with hleft | hresult
  · rw [Attempt.left_of_captured_none (a := { a with stage }) hc hreached hcaptured] at hleft
    cases hleft
  · obtain ⟨result, hresult⟩ := Option.isSome_iff_exists.1 hresult
    obtain ⟨fault, hlacks, rfl⟩ :=
      Attempt.lacks_of_captured_none (a := { a with stage }) hc hreached hcaptured hresult
    exact ⟨stage, fault, hcomes, hresult, hlacks⟩

/-- **What a run does with credentials.** -/
structure OneSnapshot (begun : Workload) (moves : List Move) : Prop where
  /-- What an attempt has captured was stored when it did so. -/
  current : ∀ (i : ℕ) (a : Attempt) held, (begun.run moves).attempts[i]? = some a →
    a.stage.captured? = some held → begun.Captures moves i held
  /-- A request that has left its filters is what preparing its call comes to
  with what its attempt has captured, all at one moment. -/
  prepared : ∀ (i : ℕ) (a : Attempt), (begun.run moves).attempts[i]? = some a →
    ∀ m r, a.stage.left? = some (m, r) → a.stage.captured? = some m.credentials ∧
      begun.session.client.prepare m a.id a.args a.options = .ok r
  /-- What the filters that are built in have put there is derived from it. -/
  derived : ∀ (i : ℕ) (a : Attempt), (begun.run moves).attempts[i]? = some a →
    ∀ o, begun.session.client.Authenticates a.id o → ∀ m r, a.stage.left? = some (m, r) →
      ∃ held, a.stage.captured? = some (some held) ∧ r.DerivedFrom held o.filters
  /-- Without credentials nothing leaves the filters, and the attempt fails
  with the fault that they are lacking, without anything else having to
  happen. -/
  refused : ∀ (i : ℕ) (a : Attempt), (begun.run moves).attempts[i]? = some a →
    ∀ o, begun.session.client.Authenticates a.id o → a.stage.captured? = some none →
      a.stage.left? = none ∧
      (∀ result, a.stage.result? = some result → ∃ fault, o.Lacks fault ∧ result = .error fault) ∧
      ∃ stage fault, (begun.run moves).Comes i a (begun.run moves).session stage ∧
        stage.result? = some (.error fault) ∧ o.Lacks fault
  /-- A request that has left its filters stays what it is. -/
  kept : ∀ (i : ℕ) (a : Attempt) m r later, (begun.run moves).attempts[i]? = some a →
    a.stage.left? = some (m, r) → ∃ stage,
      (begun.run (moves ++ later)).attempts[i]? = some { a with stage } ∧
        stage.left? = some (m, r)
  /-- The transport is handed requests that have left their filters. -/
  handed : ∀ f ∈ (begun.run moves).session.network.flights, (begun.run moves).Left f.request
  /-- What the transport has noted are such requests. -/
  sent : ∀ r ∈ (begun.run moves).session.network.sent, (begun.run moves).Left r
  /-- What was handed over, and what was noted, stays what it is. -/
  follows : ∀ later, (begun.run moves).session.network.Follows
    (begun.run (moves ++ later)).session.network

/-- Where the credentials are known, a request is derived from them. -/
theorem OneSnapshot.derivedFrom {begun : Workload} {o : Operation} {c : Credentials}
    {moment : Moment} {r : Request} (h : begun.OneSnapshot moves)
    (ha : (begun.run moves).attempts[i]? = some a)
    (ho : begun.session.client.Authenticates a.id o)
    (hc : a.stage.captured? = some (some c)) (hleft : a.stage.left? = some (moment, r)) :
    r.DerivedFrom c o.filters := by
  obtain ⟨held, hheld, hderived⟩ := h.derived i a ha o ho moment r hleft
  obtain rfl : c = held := Option.some.inj (Option.some.inj (hc.symm.trans hheld))
  exact hderived

/-- **One snapshot of credentials for each request.** Whatever is stored and
withdrawn while calls are prepared, submitted and tried again, in whatever
order: a request that leaves its filters carries what is derived from the
one value that was stored when its attempt captured it, an attempt that
captured none fails where its filters need some, and no request that has
left its filters is changed by what happens later, be it kept or sent. -/
theorem one_snapshot (client : Client) (credentials : Option Credentials) (now : Int)
    (script : List Cue) (moves : List Move) :
    (start client credentials now script).OneSnapshot moves := by
  have hclosed : Outcome.Closed fun _ => True :=
    ⟨trivial, trivial, trivial, trivial, fun _ => trivial⟩
  have hsound : ((start client credentials now script).run moves).Sound fun _ => True :=
    sound_run hclosed (fun m _ => m.within_true)
      (sound_start client credentials now fun cue _ => cue.reaction.within_true)
  have hclient : ((start client credentials now script).run moves).session.client = client :=
    client_run
  have hreached : ∀ (i : ℕ) (a : Attempt),
      ((start client credentials now script).run moves).attempts[i]? = some a →
      a.stage.Reached (fun _ => True) client a.id a.args a.options := by
    intro i a ha
    have h := hsound.reached a (List.mem_of_getElem? ha)
    rwa [hclient] at h
  constructor
  case current =>
    exact fun i a held ha hc =>
      captures_of_captured (fun _ hmem => absurd hmem List.not_mem_nil) ha hc
  case prepared =>
    intro i a ha m r hleft
    obtain ⟨o, happlies⟩ := Attempt.applies_of_left (hreached i a ha) hleft
    exact ⟨Attempt.captured_of_left hleft, happlies.prepare_eq⟩
  case derived =>
    intro i a ha o ho m r hleft
    obtain ⟨o', happlies⟩ := Attempt.applies_of_left (hreached i a ha) hleft
    obtain ⟨held, hheld, hderived⟩ := ho.derived happlies
    exact ⟨held, (Attempt.captured_of_left hleft).trans (congrArg some hheld), hderived⟩
  case refused =>
    intro i a ha o ho hnone
    have ho' := ho
    rw [← hclient] at ho'
    exact ⟨Attempt.left_of_captured_none ho (hreached i a ha) hnone,
      fun result => Attempt.lacks_of_captured_none ho (hreached i a ha) hnone,
      refused_of_captured_none hclosed hsound ha ho' hnone⟩
  case kept =>
    intro i a m r later ha hleft
    rw [run_append]
    exact left_run ha hleft
  case handed => exact fun f hf => (hsound.network.flights f hf).request
  case sent => exact hsound.network.sent
  case follows =>
    intro later
    rw [run_append]
    exact follows_run

/-- An operation that sends credentials and signs with them. -/
def audit : Operation :=
  { id := "audit", method := "GET", path := ⟨"", []⟩, query := [], headers := []
    accept := none, payload := none, endpointArgument := none, parser := "release_payload"
    mapper := none, filters := ["basic_auth", "query_signer"], unwrapping := none
    literal := [], takesOptions := false }

/-- A client that knows this operation. -/
def auditor : Client :=
  { catalogue := ⟨[audit]⟩, endpoint := "http://h", serializers := Serializer.builtin
    filters := Filter.builtin, resolver := .builtin, retry := .standard }

/-- Credentials are replaced and withdrawn while the filters of a call are at
work; it is tried again when others are stored, and another call begins in
between. -/
def unrest : List Move :=
  [.call "audit" [] [] (.retrying .first), .step 0, .step 0, .store (some ⟨"j", "t", none⟩),
    .step 0, .step 0, .store none, .step 0, .step 0, .call "audit" [] [] .preparation, .step 1,
    .step 1, .store (some ⟨"k", "u", none⟩), .step 0, .step 0, .step 2, .step 2, .store none,
    .step 2, .step 2, .step 2, .step 2]

/-- Where it begins: other credentials are there, and the transport is slow. -/
def unsettled : Workload :=
  start auditor (some ⟨"i", "s", none⟩) 0 [.answering (.error (.timeout "slow"))]

/-- The request of the first attempt is sent with what was there at first, that
of the next with what was there when the call was tried again; the call in
between finds nothing. -/
theorem one_snapshot_unrest :
    (∃ a m r, (unsettled.run unrest).attempts[0]? = some a ∧ a.stage.left? = some (m, r) ∧
      (unsettled.run unrest).session.network.sent = [r] ∧
      r.DerivedFrom ⟨"i", "s", none⟩ audit.filters) ∧
    (∃ a stage fault, (unsettled.run unrest).attempts[1]? = some a ∧
      (unsettled.run unrest).Comes 1 a (unsettled.run unrest).session stage ∧
      stage.result? = some (.error fault) ∧ audit.Lacks fault) ∧
    ∃ a m r, (unsettled.run unrest).attempts[2]? = some a ∧ a.stage.left? = some (m, r) ∧
      r.DerivedFrom ⟨"k", "u", none⟩ audit.filters := by
  have hunrest : unsettled.OneSnapshot unrest := one_snapshot auditor _ 0 _ unrest
  have haudit : auditor.Authenticates "audit" audit :=
    ⟨rfl, fun _ _ => rfl, .basicAuth, by decide, by decide⟩
  refine ⟨⟨_, _, _, rfl, rfl, rfl, ?_⟩, ?_, ⟨_, _, _, rfl, rfl, ?_⟩⟩
  · exact hunrest.derivedFrom (i := 0) rfl haudit rfl rfl
  · obtain ⟨-, -, stage, fault, hrefused⟩ := hunrest.refused 1 _ rfl audit haudit rfl
    exact ⟨_, stage, fault, rfl, hrefused⟩
  · exact hunrest.derivedFrom (i := 2) rfl haudit rfl rfl

end Workload

end RestCall

import RestCall.Proofs.Binding.Acceptance
import RestCall.Proofs.Client.Assembly
import RestCall.Proofs.Client.Workload
import RestCall.Proofs.Component.Ordinary
import RestCall.Proofs.Retry.Attempts
/-!
# RestCall — what is checked when a client is built

The components that a call looks up are those that its operation names: a
serializer while it is bound, filters before they are applied, a parser or
a mapper when its outcome is resolved. All of them are looked up once when
a client is built, so none is missing afterwards. Where components and
transport raise no faults of declarations themselves, no call of an
operation of the client ends with one (`validated`).
-/

namespace RestCall

section Pipeline

variable {o : Operation} {args : List Argument} {options : List Options} {r : Request}
variable {m : Moment}

/-! ## Binding -/

theorem Binding.ordinary_of_isOwn {refusal : Binding.Refusal} (h : refusal.IsOwn)
    (d : DeclarationFault) : refusal.fault o.id ≠ .declaration d := by
  intro hfault
  cases refusal with
  | component fault => exact h
  | _ => cases hfault

theorem Binding.eq_of_component {fault : Fault} {d : DeclarationFault}
    (h : Refusal.fault o.id (.component fault) = .declaration d) : fault = .declaration d := by
  cases fault <;> first | exact h | cases h

/-- **Binding blames no declaration** when the serializer that is declared is
there and does not. -/
theorem Binding.ordinary_bind {serializers : Family Serializer} {endpoint : String}
    (hthere : ∀ spec, o.payload = some spec → serializers.contains spec.serializer = true)
    (hordinary : ∀ id s, serializers.find? id = some s → s.IsOrdinary) :
    Ordinary (bind serializers endpoint o args options) := by
  intro d h
  obtain ⟨refusal, hrefusal, hfault⟩ := mapError_eq_error_iff.1 h
  rcases bind?_refusal hrefusal with hown | hpayload
  · exact ordinary_of_isOwn hown d hfault
  rcases payload_error hpayload with hown | ⟨spec, fault, hspec, rfl, hcomponent⟩
  · exact ordinary_of_isOwn hown d hfault
  obtain rfl := eq_of_component hfault
  rcases hcomponent with ⟨absent, habsent, -⟩ | ⟨s, hs, hraised⟩
  · have hmissing := (Family.resolve_error habsent).1
    rw [hthere spec hspec] at hmissing
    cases hmissing
  · rcases hraised with ⟨a, ha⟩ | ⟨all, hall⟩
    · exact (hordinary _ s hs).argument a d ha
    · exact (hordinary _ s hs).fields all d hall

/-! ## Filters -/

/-- **A chain is resolved** when all its names are there. -/
theorem FilterChain.resolve_succeeds_iff {family : Family Filter} {operation : String}
    {ids : List String} : (∃ chain, resolve family operation ids = .ok chain) ↔
      ∀ id ∈ ids, family.contains id = true := by
  have hfilters : (∃ filters, (ids.mapM fun id => do
      let filter ← family.resolve id operation
      return (id, filter)) = .ok filters) ↔ ∀ id ∈ ids, family.contains id = true := by
    rw [mapM_succeeds_iff]
    refine forall₂_congr fun id _ => ?_
    have hthere : (∃ filter, family.resolve id operation = .ok filter) ↔
        family.contains id = true := Family.resolve_succeeds_iff
    rw [bind_succeeds_iff, ← hthere]
    constructor
    · rintro ⟨filter, hfilter, -⟩
      exact ⟨filter, hfilter⟩
    · rintro ⟨filter, hfilter⟩
      exact ⟨filter, hfilter, _, rfl⟩
  rw [resolve, bind_succeeds_iff, ← hfilters]
  constructor
  · rintro ⟨filters, h, -⟩
    exact ⟨filters, h⟩
  · rintro ⟨filters, h⟩
    exact ⟨filters, h, _, rfl⟩

theorem FilterChain.ordinary_apply {chain : FilterChain}
    (h : ∀ e ∈ chain.filters, e.2.IsOrdinary) : Ordinary (chain.apply m r) := by
  rw [apply]
  generalize chain.filters = fs at h
  induction fs generalizing r with
  | nil => exact ordinary_ok r
  | cons e fs ih =>
    rw [List.forall_mem_cons] at h
    rw [applyAll]
    refine Ordinary.bind ((h.1 m r).mapError fun fault d hlocated => ?_) fun r' _ => ih h.2
    cases fault <;> first | exact hlocated | cases hlocated

/-! ## Resolving -/

theorem Resolver.ordinary_mapFailure {resolver : Resolver} {fault : Fault}
    (hknows : resolver.Knows o)
    (hordinary : ∀ id m, resolver.mappers.find? id = some m → m.IsOrdinary)
    (hfault : ∀ d, fault ≠ .declaration d) : Ordinary (resolver.mapFailure o fault) := by
  rw [mapFailure]
  split
  · intro d h
    exact hfault d (Except.error.inj h)
  · rename_i id hid
    refine Ordinary.bind (fun d h => ?_) fun mapper hmapper => ?_
    · obtain ⟨mapper, hmapper⟩ := component_succeeds_iff.2 (hknows.mapper id hid)
      rw [hmapper] at h
      cases h
    · exact hordinary id mapper (Family.resolve_eq_ok_iff.1 (mapError_eq_ok_iff.1 hmapper))
        fault hfault

theorem Resolver.ordinary_resolve {resolver : Resolver} {outcome : Outcome}
    (hknows : resolver.Knows o)
    (hparsers : ∀ id p, resolver.parsers.find? id = some p → p.IsOrdinary)
    (hmappers : ∀ id m, resolver.mappers.find? id = some m → m.IsOrdinary)
    (houtcome : Ordinary outcome) : Ordinary (resolver.resolve o outcome) := by
  cases outcome with
  | error fault =>
    have hfault : ∀ d, fault ≠ .declaration d := fun d h => houtcome d (congrArg _ h)
    by_cases hcancelled : fault = .cancelled
    · subst hcancelled
      intro d h
      cases h
    · rw [resolve_error hcancelled]
      exact ordinary_mapFailure hknows hmappers hfault
  | ok response =>
    cases hsuccess : response.isSuccess with
    | false =>
      rw [resolve_refused hsuccess]
      exact ordinary_mapFailure hknows hmappers fun d h => (by cases h)
    | true =>
      obtain ⟨p, hp⟩ := Family.contains_iff.1 hknows.parser
      rw [resolve_success hsuccess hp]
      refine Ordinary.map ((hparsers _ p hp response).mapError fun fault d hlocated => ?_)
      cases fault <;> first | exact hlocated | cases hlocated

end Pipeline

/-! ## Clients -/

namespace Client

variable {c : Client} {o : Operation} {args : List Argument} {options : List Options}

/-- Whether a client has the components that an operation names. -/
structure Supplies (c : Client) (o : Operation) : Prop where
  resolver : c.resolver.Knows o
  filters : ∀ id ∈ o.filters, c.filters.contains id = true
  serializer : ∀ spec, o.payload = some spec → c.serializers.contains spec.serializer = true

/-- Whether no component of a client raises faults of declarations. -/
structure IsOrdinary (c : Client) : Prop where
  serializers : ∀ id s, c.serializers.find? id = some s → s.IsOrdinary
  filters : ∀ id f, c.filters.find? id = some f → f.IsOrdinary
  parsers : ∀ id p, c.resolver.parsers.find? id = some p → p.IsOrdinary
  mappers : ∀ id m, c.resolver.mappers.find? id = some m → m.IsOrdinary

/-- **Preparing a call** of an operation that is supplied blames no
declaration. -/
theorem ordinary_prepareWith (hc : c.IsOrdinary) (h : c.Supplies o) (m : Moment) :
    Ordinary (c.prepareWith m o args options) := by
  refine Ordinary.bind (Binding.ordinary_bind h.serializer hc.serializers) fun bound hbound => ?_
  rw [Binding.filters_of_bind hbound]
  obtain ⟨chain, hchain⟩ := FilterChain.resolve_succeeds_iff.2 h.filters
  rw [hchain]
  exact FilterChain.ordinary_apply fun e he =>
    hc.filters e.1 e.2 (FilterChain.find?_of_resolve hchain e he)

theorem ordinary_resolve (hc : c.IsOrdinary) (h : c.Supplies o) {outcome : Outcome}
    (houtcome : Ordinary outcome) : Ordinary (c.resolver.resolve o outcome) :=
  Resolver.ordinary_resolve h.resolver hc.parsers hc.mappers houtcome

theorem ordinary_prepare {id : String} (hc : c.IsOrdinary) (h : c.Supplies o)
    (ho : c.describe id = .ok o) (m : Moment) : Ordinary (c.prepare m id args options) := by
  rw [prepare, ho]
  exact ordinary_prepareWith hc h m

end Client

namespace Assembly

variable {a : Assembly} {env : Environment} {client : Client} {o : Operation}

/-- **What is checked of an operation** is that its components are there. -/
theorem supplies_of_build (h : a.build env = .ok client) (ho : o ∈ client.catalogue.operations) :
    client.Supplies o := by
  have hbuilds := build_eq_ok_iff.1 h
  obtain ⟨⟨⟩, hresolver, hrest⟩ := bind_eq_ok_iff.1 (hbuilds.checked o ho)
  obtain ⟨chain, hchain, hrest⟩ := bind_eq_ok_iff.1 hrest
  refine ⟨?_, ?_, fun spec hspec => ?_⟩
  · rw [hbuilds.resolver]
    exact Resolver.validate_eq_ok_iff.1 hresolver
  · rw [hbuilds.filters]
    exact FilterChain.resolve_succeeds_iff.1 ⟨chain, mapError_eq_ok_iff.1 hchain⟩
  · rw [hbuilds.serializers]
    rw [hspec] at hrest
    obtain ⟨s, hs, -⟩ := bind_eq_ok_iff.1 hrest
    exact Family.resolve_succeeds_iff.1 ⟨s, mapError_eq_ok_iff.1 hs⟩

/-- An operation is found under its id. -/
theorem describe_of_build (h : a.build env = .ok client)
    (ho : o ∈ client.catalogue.operations) : client.describe o.id = .ok o := by
  have hcatalogue := (build_eq_ok_iff.1 h).catalogue
  have hnodup := (definitions_of_catalogue hcatalogue).2
  rw [← ids_of_catalogue hcatalogue] at hnodup
  exact mapError_eq_ok_iff.2 (Catalogue.describe_of_mem hnodup ho)

/-- Whether the components that are not built in raise no faults of
declarations. -/
structure IsOrdinary (a : Assembly) : Prop where
  serializers : ∀ id s, a.serializers.find? id = some s →
    Serializer.builtin.find? id = some s ∨ s.IsOrdinary
  filters : ∀ id f, a.filters.find? id = some f → Filter.builtin.find? id = some f ∨ f.IsOrdinary
  parsers : ∀ id p, a.resolver.parsers.find? id = some p →
    Parser.builtin.find? id = some p ∨ p.IsOrdinary
  mappers : ∀ id m, a.resolver.mappers.find? id = some m →
    Mapper.builtin.find? id = some m ∨ m.IsOrdinary

theorem IsOrdinary.of_build (ha : a.IsOrdinary) (h : a.build env = .ok client) :
    client.IsOrdinary := by
  have hbuilds := build_eq_ok_iff.1 h
  constructor
  · rw [hbuilds.serializers]
    exact fun id s hs => (ha.serializers id s hs).elim Serializer.isOrdinary_of_builtin fun h => h
  · rw [hbuilds.filters]
    exact fun id f hf => (ha.filters id f hf).elim Filter.isOrdinary_of_builtin fun h => h
  · rw [hbuilds.resolver]
    exact fun id p hp => (ha.parsers id p hp).elim Parser.isOrdinary_of_builtin fun h => h
  · rw [hbuilds.resolver]
    exact fun id m hm => (ha.mappers id m hm).elim Mapper.isOrdinary_of_builtin fun h => h

end Assembly

/-! ## Sessions -/

theorem closed_ordinary : Outcome.Closed Ordinary where
  emptySuccess := ordinary_ok _
  cancelled := fun d h => by cases h
  polledAgain := fun d h => by cases h
  noOutcome := fun d h => by cases h
  noRuntime := fun operation d h => by cases h

namespace Session

variable {c : Client} {o : Operation} {args : List Argument} {options : List Options}
variable {s : Session} {id : String}

/-- A session of a client, over a transport without faults of declarations. -/
structure Serves (c : Client) (s : Session) : Prop where
  client : s.client = c
  network : s.network.Within (fun _ => True) Ordinary

theorem ordinary_submit (hc : c.IsOrdinary) (h : c.Supplies o) (ho : c.describe id = .ok o)
    (hs : s.Serves c) (hasRuntime : Bool) : Ordinary (s.submit hasRuntime id args options) := by
  rw [submit, hs.client, ho]
  change Ordinary (c.prepareWith s.moment o args options >>= _)
  exact Ordinary.bind (c.ordinary_prepareWith hc h _) fun r _ => ordinary_ok _

/-- A call that is submitted is one whose request has been handed over. -/
theorem dispatched_of_submit {hasRuntime : Bool} {call : Call} {s' : Session}
    (h : s.submit hasRuntime id args options = .ok (call, s')) :
    s.client.describe id = .ok call.operation ∧ ∃ r, s' = (s.dispatch hasRuntime r).2 := by
  obtain ⟨o, ho, h⟩ := bind_eq_ok_iff.1 h
  obtain ⟨r, -, h⟩ := bind_eq_ok_iff.1 h
  cases h
  exact ⟨ho, r, rfl⟩

/-- **A call that is waited for** ends with no fault of a declaration, if it
ends. -/
theorem ordinary_wait (hc : c.IsOrdinary) (h : c.Supplies o) (hs : s.Serves c) {exchange : ℕ} :
    (s.wait ⟨o, exchange⟩).2.Serves c ∧
      ∀ result, (s.wait ⟨o, exchange⟩).1 = some result → Ordinary result := by
  obtain ⟨hresult, hnetwork⟩ := within_wait ⟨o, exchange⟩ closed_ordinary hs.network
  refine ⟨⟨keeps_wait.client.trans hs.client, hnetwork⟩, fun result hwaited => ?_⟩
  obtain ⟨outcome, houtcome, rfl⟩ := hresult result hwaited
  rw [hs.client]
  exact c.ordinary_resolve hc h houtcome

/-- **A call that is invoked** ends with no fault of a declaration, if it
ends. -/
theorem ordinary_invoke (hc : c.IsOrdinary) (h : c.Supplies o) (ho : c.describe id = .ok o)
    (hs : s.Serves c) : (s.invoke id args options).2.Serves c ∧
      ∀ result, (s.invoke id args options).1 = some result → Ordinary result := by
  have hordinary : Ordinary (s.submit true id args options) := ordinary_submit hc h ho hs true
  rw [invoke]
  cases hsubmit : s.submit true id args options with
  | error fault =>
    rw [hsubmit] at hordinary
    refine ⟨hs, fun result hresult d hd => ?_⟩
    cases hresult
    exact hordinary d (congrArg _ (Except.error.inj hd))
  | ok submitted =>
    obtain ⟨⟨operation, exchange⟩, s'⟩ := submitted
    obtain ⟨hoperation, r, rfl⟩ := dispatched_of_submit hsubmit
    rw [hs.client, ho] at hoperation
    obtain rfl : o = operation := Except.ok.inj hoperation
    exact ordinary_wait hc h ⟨keeps_dispatch.client.trans hs.client,
      within_dispatch closed_ordinary hs.network trivial⟩

/-- **A call that is tried again** ends with no fault of a declaration, if it
ends. -/
theorem ordinary_invokeWithRetry (hc : c.IsOrdinary) (h : c.Supplies o)
    (ho : c.describe id = .ok o) (hs : s.Serves c) {result : Except Fault Resolution}
    (hresult : (s.invokeWithRetry id args options).1 = some result) : Ordinary result :=
  RetryPolicy.follow_result (fun _ hs' => ordinary_invoke hc h ho hs') _ hs hresult

end Session

/-! ## Workloads -/

namespace Workload

variable {c : Client} {o : Operation} {w : Workload} {x : Attempt} {result : Except Fault Resolution}

/-- **An attempt** at a call of an operation that is supplied ends with no
fault of a declaration. -/
theorem ordinary_of_reached (hc : c.IsOrdinary) (h : c.Supplies o) (ho : c.describe x.id = .ok o)
    (hreached : x.stage.Reached Ordinary c x.id x.args x.options)
    (hresult : x.stage.result? = some result) : Ordinary result := by
  cases hstage : x.stage with
  | unbound fault =>
    rw [hstage] at hreached hresult
    cases hresult
    have hunbound := Client.prepare_of_unbound hreached ⟨none, 0⟩
    intro d hd
    exact c.ordinary_prepare hc h ho _ d (hunbound.trans (congrArg _ (Except.error.inj hd)))
  | refused o' m fault =>
    rw [hstage] at hreached hresult
    obtain ⟨ho', hprepare⟩ := Client.Applies.prepareWith_eq hreached
    obtain rfl : o' = o := Except.ok.inj (ho'.symm.trans ho)
    cases hresult
    intro d hd
    exact c.ordinary_prepareWith hc h m d (hprepare.trans (congrArg _ (Except.error.inj hd)))
  | resolved o' m r result' =>
    rw [hstage] at hreached hresult
    obtain ⟨happlies, outcome, houtcome, hresolve⟩ := hreached
    obtain ⟨ho', -⟩ := happlies.prepareWith_eq
    obtain rfl : o' = o := Except.ok.inj (ho'.symm.trans ho)
    cases hresult
    rw [← hresolve]
    exact c.ordinary_resolve hc h houtcome
  | _ =>
    rw [hstage] at hresult
    cases hresult

end Workload

/-- **No call blames a declaration.** Of a client that is built, whatever the
credentials, the time, the calls that are under way at once and the
outcomes that the transport brings, as long as neither the transport nor a
component that is not built in raises a fault of a declaration: no attempt
at a call of one of its operations ends with such a fault, be it prepared,
submitted or tried again, and neither do preparing, submitting and invoking
the operation, with retries or without. -/
theorem Assembly.validated {a : Assembly} {env : Environment} {client : Client}
    (h : a.build env = .ok client) (ha : a.IsOrdinary) (credentials : Option Credentials)
    (now : Int) {script : List Cue} (hscript : ∀ cue ∈ script, cue.reaction.Within Ordinary)
    {moves : List Workload.Move} (hmoves : ∀ m ∈ moves, m.Within Ordinary) (w : Workload)
    (hw : (Workload.start client credentials now script).run moves = w) :
    (∀ x ∈ w.attempts, x.id ∈ client.catalogue.ids → ∀ result, x.stage.result? = some result →
      Ordinary result) ∧
    ∀ o ∈ client.catalogue.operations, ∀ args options,
      Ordinary (w.session.prepare o.id args options) ∧
      (∀ hasRuntime, Ordinary (w.session.submit hasRuntime o.id args options)) ∧
      (∀ result, (w.session.invoke o.id args options).1 = some result → Ordinary result) ∧
      ∀ result, (w.session.invokeWithRetry o.id args options).1 = some result →
        Ordinary result := by
  subst hw
  have hc := ha.of_build h
  have hclient : ((Workload.start client credentials now script).run moves).session.client =
      client := Workload.client_run
  have hsound := Workload.sound_run closed_ordinary hmoves
    (Workload.sound_start client credentials now hscript)
  refine ⟨fun x hx hid result hresult => ?_, fun o ho args options => ?_⟩
  · obtain ⟨o, ho, hox⟩ := List.mem_map.1 hid
    have hdescribe := a.describe_of_build h ho
    rw [hox] at hdescribe
    have hreached := hsound.reached x hx
    rw [hclient] at hreached
    exact Workload.ordinary_of_reached hc (a.supplies_of_build h ho) hdescribe hreached hresult
  · have hsupplies := a.supplies_of_build h ho
    have hdescribe := a.describe_of_build h ho
    have hserves : Session.Serves client
        ((Workload.start client credentials now script).run moves).session :=
      ⟨hclient, hsound.network.mono fun _ _ => trivial⟩
    refine ⟨?_, fun hasRuntime => Session.ordinary_submit hc hsupplies hdescribe hserves hasRuntime,
      (Session.ordinary_invoke hc hsupplies hdescribe hserves).2,
      fun result => Session.ordinary_invokeWithRetry hc hsupplies hdescribe hserves⟩
    rw [Session.prepare, hclient]
    exact client.ordinary_prepare hc hsupplies hdescribe _

/-- A filter that sends the time as it is. -/
def stamp : Filter where
  apply := fun m r => .ok (Filter.setHeader "X-Stamp" (toString m.now) r)

/-- An operation that needs this filter beside a built-in one. -/
def stamped : Operation :=
  { id := "clock.sync", method := "POST", path := ⟨"", []⟩, query := [], headers := []
    accept := none, payload := none, endpointArgument := some 0, parser := "json", mapper := none
    filters := ["basic_auth", "stamp"], unwrapping := none, literal := [], takesOptions := false }

/-- An assembly of both. -/
def stamping : Assembly :=
  { Assembly.start with operations := [stamped], filters := Filter.builtin.register "stamp" stamp }

/-- Where a call goes to. -/
def clock : Argument := .uri ⟨"http", some "clock", some "clock", "/", none, none⟩

theorem Assembly.validated_stamping :
    stamping.IsOrdinary ∧ ∃ client, stamping.build [] = .ok client ∧
      ∃ w, (Workload.start client none 0 [Cue.answering (.error (.timeout "slow"))]).run
          [.store (some ⟨"i", "s", none⟩)] = w ∧
        (w.session.invoke "clock.sync" [clock] []).1 = some (.error (.timeout "slow")) ∧
        ∀ result, (w.session.invokeWithRetry "clock.sync" [clock] []).1 = some result →
          Ordinary result := by
  have hstamping : stamping.IsOrdinary := by
    refine ⟨fun _ _ hs => .inl hs, fun id f hf => ?_, fun _ _ hp => .inl hp, fun _ _ hm => .inl hm⟩
    by_cases hid : id = "stamp"
    · subst hid
      cases hf
      exact .inr fun m r => ordinary_ok _
    · exact .inl ((Family.find?_register_of_ne hid).symm.trans hf)
  have hscript : ∀ cue ∈ [Cue.answering (.error (.timeout "slow"))],
      cue.reaction.Within Ordinary :=
    List.forall_mem_singleton.2 fun d hd => (by cases hd)
  have hmoves : ∀ m ∈ [Workload.Move.store (some ⟨"i", "s", none⟩)], m.Within Ordinary :=
    List.forall_mem_singleton.2 trivial
  refine ⟨hstamping, _, rfl, _, rfl, rfl, fun result hresult => ?_⟩
  obtain ⟨-, hcalls⟩ :=
    Assembly.validated (a := stamping) rfl hstamping none 0 hscript hmoves _ rfl
  exact (hcalls stamped List.mem_cons_self [clock] []).2.2.2 result hresult

end RestCall

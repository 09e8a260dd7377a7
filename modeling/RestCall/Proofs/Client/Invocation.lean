import RestCall.Client.Session
import RestCall.Proofs.Dispatch.Idle
import RestCall.Proofs.Fault.Propagation
import RestCall.Proofs.Retry.Attempts
/-!
# RestCall — what is prepared is what is sent

A call is prepared before anything is sent. When there is no request the
fault of preparing it is the result and the transport receives nothing;
when there is one the transport receives exactly that request, once for
each attempt, and the outcome of the last attempt is resolved. The
transport follows a script of outcomes, and no other task of the session
can go on.
-/

namespace RestCall

namespace Session

variable {s : Session} {id : String} {args : List Argument} {options : List Options}
variable {request : Request} {outcome : Outcome} {script : List Outcome}

/-- A session after a request has been answered and its outcome taken, with
the outcomes that are left. -/
def exchanged (request : Request) (outcome : Outcome) (script : List Outcome) (s : Session) :
    Session :=
  { s with network := s.network.answered request outcome false (script.map Cue.answering) }

/-! ## Preparing and submitting -/

theorem exists_describe_of_prepare (h : s.prepare id args options = .ok request) :
    ∃ o, s.client.describe id = .ok o ∧
      s.client.prepareWith s.moment o args options = .ok request := by
  rw [prepare, Client.prepare] at h
  exact bind_eq_ok_iff.1 h

theorem submit_of_error {fault : Fault} (h : s.prepare id args options = .error fault) :
    s.submit true id args options = .error fault := by
  rw [prepare, Client.prepare] at h
  rw [submit, bind_eq_error_iff]
  rcases bind_eq_error_iff.1 h with hdescribe | ⟨o, hdescribe, hprepare⟩
  · exact .inl hdescribe
  · exact .inr ⟨o, hdescribe, bind_eq_error_iff.2 (.inl hprepare)⟩

/-- A call that can be prepared hands its request over. -/
theorem submit_of_ok {o : Operation} (hd : s.client.describe id = .ok o)
    (hp : s.client.prepareWith s.moment o args options = .ok request) :
    s.submit true id args options =
      .ok (⟨o, s.network.flights.length⟩, { s with network := (s.network.launch request).2 }) := by
  rw [submit, hd]
  simp only [bind, Except.bind, hp]
  rfl

/-! ## Waiting -/

/-- Asking for the outcome of the last request changes its exchange only. -/
theorem poll_last {f : Flight} {flights : List Flight} (h : s.network.flights = flights ++ [f]) :
    s.poll flights.length =
      (f.exchange.poll.1,
        { s with
          network := { s.network with
            flights := flights ++ [{ f with exchange := f.exchange.poll.2 }] } }) := by
  have hx : s.exchange flights.length = f.exchange := by
    rw [exchange, Network.exchange?, h, List.getElem?_concat_length]
    rfl
  simp only [poll, hx, Network.onExchange, Network.update, h, Network.modify_last]

/-- **A request handed over is answered while the session waits for it.** -/
theorem await_launch (hidle : s.network.Idle) (hs : s.network.script = script.map Cue.answering) :
    await s.network.flights.length { s with network := (s.network.launch request).2 } =
      (some (script.headD Cue.emptySuccess),
        s.exchanged request (script.headD Cue.emptySuccess) script.tail) := by
  -- the first poll finds nothing, and the second what the run has delivered
  have hlaunched := poll_last (s := { s with network := (s.network.launch request).2 }) rfl
  have hpoll : poll s.network.flights.length { s with network := (s.network.launch request).2 } =
      (none, { s with network := (s.network.launch request).2 }) := hlaunched
  rw [await, hpoll]
  dsimp only
  rw [run, Network.run_launch hidle hs, poll_last rfl]
  cases script.headD Cue.emptySuccess <;> rfl

/-! ## Invoking -/

theorem invoke_of_error {fault : Fault} (h : s.prepare id args options = .error fault) :
    s.invoke id args options = (some (.error fault), s) := by
  rw [invoke, submit_of_error h]

/-- **A call that is invoked sends its request and resolves the outcome.** -/
theorem invoke_of_ok {o : Operation} (hidle : s.network.Idle)
    (hs : s.network.script = script.map Cue.answering) (hd : s.client.describe id = .ok o)
    (hp : s.client.prepareWith s.moment o args options = .ok request) :
    s.invoke id args options =
      (some (s.client.resolver.resolve o (script.headD Cue.emptySuccess)),
        s.exchanged request (script.headD Cue.emptySuccess) script.tail) := by
  rw [invoke, submit_of_ok hd hp]
  dsimp only
  rw [wait, await_launch hidle hs]
  rfl

/-! ## Trying again -/

/-- The outcome that answers the request of a number, counted from 1. -/
def outcomeAt (script : List Outcome) (i : ℕ) : Outcome := script.getD (i - 1) Cue.emptySuccess

/-- A session in which a request has been sent a number of times. -/
structure Resent (request : Request) (script : List Outcome) (s t : Session) (k : ℕ) : Prop where
  client : t.client = s.client
  moment : t.moment = s.moment
  idle : t.network.Idle
  script : t.network.script = (script.drop k).map Cue.answering
  sent : t.network.sent = s.network.sent ++ List.replicate k request

/-- The session after a number of attempts. -/
def resent (request : Request) (script : List Outcome) (s : Session) : ℕ → Session
  | 0 => s
  | k + 1 => (resent request script s k).exchanged request (outcomeAt script (k + 1))
      (script.drop (k + 1))

theorem resent_spec (request : Request) (hidle : s.network.Idle)
    (hs : s.network.script = script.map Cue.answering) :
    ∀ k, Resent request script s (resent request script s k) k
  | 0 => ⟨rfl, rfl, hidle, hs, (List.append_nil _).symm⟩
  | k + 1 => by
    have ih := resent_spec request hidle hs k
    refine ⟨ih.client, ih.moment, Network.idle_answered ih.idle, rfl, ?_⟩
    change (resent request script s k).network.sent ++ [request] = _
    rw [ih.sent, List.append_assoc, List.replicate_succ']

/-- **Every attempt sends the same request** and takes the next outcome. -/
theorem invoke_resent {o : Operation} (hidle : s.network.Idle)
    (hs : s.network.script = script.map Cue.answering) (hd : s.client.describe id = .ok o)
    (hp : s.client.prepareWith s.moment o args options = .ok request) (k : ℕ) :
    (resent request script s k).invoke id args options =
      (some (s.client.resolver.resolve o (outcomeAt script (k + 1))),
        resent request script s (k + 1)) := by
  have h := resent_spec request hidle hs k
  have hnext : (script.drop k).headD Cue.emptySuccess = outcomeAt script (k + 1) := by
    rw [List.headD_eq_head?_getD, List.head?_drop, outcomeAt, List.getD_eq_getElem?_getD,
      Nat.add_sub_cancel]
  rw [invoke_of_ok h.idle h.script (by rw [h.client]; exact hd)
    (by rw [h.client, h.moment]; exact hp), hnext, List.tail_drop, h.client]
  rfl

theorem invokeWithRetry_of_error {fault : Fault} (h : s.prepare id args options = .error fault) :
    ∃ s', s.invokeWithRetry id args options = (some (.error fault), s') ∧
      s'.network = s.network := by
  -- every attempt fails in the same way and leaves the session as it is
  obtain ⟨n, hn⟩ := RetryPolicy.exists_isLeast_stops s.client.retry
    fun _ => (.error fault : Except Fault Resolution)
  obtain ⟨warnings, -, hf⟩ := RetryPolicy.follow_eq id (fun _ => s)
    (fun _ _ => invoke_of_error h) hn le_rfl (Nat.add_sub_cancel' hn.1.1) []
  have hfirst : s.client.retry.follow id (invoke id args options) .first s = _ := hf
  rw [invokeWithRetry, hfirst]
  exact ⟨_, rfl, rfl⟩

theorem invokeWithRetry_of_ok {o : Operation} (hidle : s.network.Idle)
    (hs : s.network.script = script.map Cue.answering) (hd : s.client.describe id = .ok o)
    (hp : s.client.prepareWith s.moment o args options = .ok request) :
    ∃ n s', IsLeast (s.client.retry.stops fun i =>
        s.client.resolver.resolve o (outcomeAt script i)) n ∧
      s.invokeWithRetry id args options =
        (some (s.client.resolver.resolve o (outcomeAt script n)), s') ∧
      s'.network.sent = s.network.sent ++ List.replicate n request := by
  obtain ⟨n, hn⟩ := RetryPolicy.exists_isLeast_stops s.client.retry
    fun i => s.client.resolver.resolve o (outcomeAt script i)
  -- attempt `i` begins when the request has been sent `i - 1` times
  have hstep : ∀ i, 1 ≤ i → invoke id args options (resent request script s (i - 1)) =
      (some (s.client.resolver.resolve o (outcomeAt script i)),
        resent request script s (i + 1 - 1)) := by
    intro i hi
    have h := invoke_resent hidle hs hd hp (i - 1)
    rwa [Nat.sub_add_cancel hi] at h
  obtain ⟨warnings, -, hf⟩ := RetryPolicy.follow_eq id (fun i => resent request script s (i - 1))
    hstep hn le_rfl (Nat.add_sub_cancel' hn.1.1) []
  have hfirst : s.client.retry.follow id (invoke id args options) .first s = _ := hf
  rw [invokeWithRetry, hfirst]
  exact ⟨n, _, hn, rfl, (resent_spec request hidle hs n).sent⟩

/-- **What is prepared is what is sent.** When preparing a call fails, its
fault is the result of submitting and of invoking it, with retries or
without, and the transport receives nothing. Otherwise the transport
receives the prepared request: once for a call that is submitted or
invoked, and with retries once for each attempt up to the first that may
be the last; the result is what the outcome of that attempt resolves to. -/
theorem prepared_is_sent (s : Session) (script : List Outcome) (id : String)
    (args : List Argument) (options : List Options) (hidle : s.network.Idle)
    (hs : s.network.script = script.map Cue.answering) :
    (∀ fault, s.prepare id args options = .error fault →
      s.submit true id args options = .error fault ∧
      s.invoke id args options = (some (.error fault), s) ∧
      ∃ s', s.invokeWithRetry id args options = (some (.error fault), s') ∧
        s'.network = s.network) ∧
    (∀ request, s.prepare id args options = .ok request →
      ∃ o, s.client.describe id = .ok o ∧
        (∃ call s', s.submit true id args options = .ok (call, s') ∧
          s'.run.network.sent = s.network.sent ++ [request]) ∧
        (∃ s', s.invoke id args options =
            (some (s.client.resolver.resolve o (outcomeAt script 1)), s') ∧
          s'.network.sent = s.network.sent ++ [request]) ∧
        ∃ n s', IsLeast (s.client.retry.stops fun i =>
            s.client.resolver.resolve o (outcomeAt script i)) n ∧
          s.invokeWithRetry id args options =
            (some (s.client.resolver.resolve o (outcomeAt script n)), s') ∧
          s'.network.sent = s.network.sent ++ List.replicate n request) := by
  constructor
  · intro fault h
    exact ⟨submit_of_error h, invoke_of_error h, invokeWithRetry_of_error h⟩
  · intro request h
    obtain ⟨o, hd, hp⟩ := exists_describe_of_prepare h
    refine ⟨o, hd, ⟨_, _, submit_of_ok hd hp, ?_⟩, ⟨_, invoke_resent hidle hs hd hp 0, rfl⟩,
      invokeWithRetry_of_ok hidle hs hd hp⟩
    rw [run, Network.run_launch hidle hs]
    rfl

/-- An operation that sends credentials and gives nothing back. -/
def ping : Operation :=
  { id := "ping", method := "GET", path := ⟨"", []⟩, query := [], headers := [], accept := none
    payload := none, endpointArgument := none, parser := "release_payload", mapper := none
    filters := ["basic_auth"], unwrapping := none, literal := [], takesOptions := false }

/-- A session that knows this operation, over a transport that is slow once. -/
def pinging : Session :=
  .start
    { catalogue := ⟨[ping]⟩, endpoint := "http://h", serializers := Serializer.builtin
      filters := Filter.builtin, resolver := .builtin, retry := .standard }
    (some ⟨"i", "s", none⟩) 0 ([.error (.timeout "slow")].map Cue.answering)

/-- The slow request is sent a second time, and that is all. -/
theorem prepared_is_sent_twice :
    pinging.network.Idle ∧
    pinging.network.script = [.error (.timeout "slow")].map Cue.answering ∧
    ∃ request s', pinging.prepare "ping" [] [] = .ok request ∧
      pinging.invokeWithRetry "ping" [] [] = (some (.ok .void), s') ∧
      s'.network.sent = [request, request] := by
  have hprepare : pinging.prepare "ping" [] [] = .ok ⟨"ping", "GET", "http://h", ⟨[]⟩,
      ⟨[("Authorization", "Basic aTpz")]⟩, none, ["basic_auth"], []⟩ := rfl
  obtain ⟨o, ho, -, -, n, s', hn, hresult, hsent⟩ :=
    (prepared_is_sent pinging [.error (.timeout "slow")] "ping" [] []
      (Network.idle_start _) rfl).2 _ hprepare
  obtain rfl : ping = o := Except.ok.inj ho
  have htwo : IsLeast (pinging.client.retry.stops fun i =>
      pinging.client.resolver.resolve ping (outcomeAt [.error (.timeout "slow")] i)) 2 := by
    refine ⟨⟨by decide, .inl (.inl ⟨.void, rfl⟩)⟩, ?_⟩
    rintro i ⟨hi, hend⟩
    by_contra hlt
    obtain rfl : i = 1 := by omega
    rcases hend with (⟨a, ha⟩ | ⟨fault, hf, hr⟩) | hmax
    · cases ha
    · cases hf
      cases hr
    · cases hmax
  obtain rfl := hn.unique htwo
  exact ⟨Network.idle_start _, rfl, _, s', hprepare, hresult, hsent⟩

end Session

end RestCall

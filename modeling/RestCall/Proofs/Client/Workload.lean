import Mathlib.Data.Nat.Notation
import RestCall.Client.Session
import RestCall.Proofs.Dispatch.Traffic
import RestCall.Proofs.Fault.Propagation
/-!
# RestCall — calls that are under way at once

Whoever shares a client may call operations and replace or withdraw the
credentials at any time. There is one place where credentials are kept, for
a client, its clones and everyone who holds that place. A call is made in
attempts, and an attempt goes through stages: it is bound, it captures the
credentials and the time, its request goes through one filter after another
and is prepared, and where it is sent its outcome is waited for. Between two
stages of one attempt those of others may fall, and so may all that happens
to the credentials, the clock and the transport.

A workload is a session with the attempts that are under way. What is stored
is changed by nobody but who stores (`credentials_run`), and a request that
has left the filters stays what it is (`left_run`). At any time (`Sound`,
`sound_run`) an attempt is at a stage that preparing its call leads to, and
the transport knows requests that have left the filters and no others.
-/

namespace RestCall

/-! ## Attempts -/

/-- What an attempt is made for: to prepare a request, to hand it over once,
with or without a runtime that tasks run on, or to try a call again as the
client's policy says. -/
inductive Attempt.Purpose where
  | preparation
  | submission (hasRuntime : Bool)
  | retrying (tried : RetryPolicy.Attempting)

/-- How far an attempt is. `unbound`, `refused` and `resolved` are ends, and
so is `prepared` where nothing is to be sent. -/
inductive Attempt.Stage where
  | called
  | unbound (fault : Fault)
  | bound (o : Operation) (chain : FilterChain) (r : Request)
  | holding (o : Operation) (chain : FilterChain) (r : Request) (credentials : Option Credentials)
  | filtering (o : Operation) (m : Moment) (rest : List (String × Filter)) (r : Request)
  | refused (o : Operation) (m : Moment) (fault : Fault)
  | prepared (o : Operation) (m : Moment) (r : Request)
  | sent (o : Operation) (m : Moment) (r : Request) (exchange : ℕ)
  | resolved (o : Operation) (m : Moment) (r : Request) (result : Except Fault Resolution)

/-- An attempt of a call. -/
structure Attempt where
  id : String
  args : List Argument
  options : List Options
  purpose : Attempt.Purpose
  stage : Attempt.Stage

namespace Attempt

/-- The result of an attempt that has ended without a request or with an
outcome. -/
def Stage.result? : Stage → Option (Except Fault Resolution)
  | unbound fault => some (.error fault)
  | refused _ _ fault => some (.error fault)
  | resolved _ _ _ result => some result
  | _ => none

/-- The credentials that an attempt has captured. -/
def Stage.captured? : Stage → Option (Option Credentials)
  | holding _ _ _ credentials => some credentials
  | filtering _ m _ _ => some m.credentials
  | refused _ m _ => some m.credentials
  | prepared _ m _ => some m.credentials
  | sent _ m _ _ => some m.credentials
  | resolved _ m _ _ => some m.credentials
  | _ => none

/-- The request that has left the filters, with what was captured for it. -/
def Stage.left? : Stage → Option (Moment × Request)
  | prepared _ m r => some (m, r)
  | sent _ m r _ => some (m, r)
  | resolved _ m r _ => some (m, r)
  | _ => none

end Attempt

namespace Client

variable {c : Client} {id : String} {args : List Argument} {options : List Options}
variable {o : Operation} {chain : FilterChain} {r : Request} {fault : Fault}

/-- A call that is bound: its operation, its filters and its request before
they are applied. -/
def bound (c : Client) (id : String) (args : List Argument) (options : List Options) :
    Except Fault (Operation × FilterChain × Request) := do
  let o ← c.describe id
  let r ← Binding.bind c.serializers c.endpoint o args options
  let chain ← (FilterChain.resolve c.filters o.id r.filters).mapError .declaration
  return (o, chain, r)

theorem bound_eq_ok_iff : c.bound id args options = .ok (o, chain, r) ↔
    c.describe id = .ok o ∧ Binding.bind c.serializers c.endpoint o args options = .ok r ∧
      (FilterChain.resolve c.filters o.id r.filters).mapError Fault.declaration = .ok chain := by
  simp only [bound, bind_eq_ok_iff]
  constructor
  · rintro ⟨o, ho, r, hr, chain, hchain, heq⟩
    cases heq
    exact ⟨ho, hr, hchain⟩
  · rintro ⟨ho, hr, hchain⟩
    exact ⟨o, ho, r, hr, chain, hchain, rfl⟩

/-- **A call is prepared** by the filters it is bound to. -/
theorem prepareWith_of_bound (h : c.bound id args options = .ok (o, chain, r)) (m : Moment) :
    c.prepareWith m o args options = chain.apply m r := by
  obtain ⟨-, hr, hchain⟩ := bound_eq_ok_iff.1 h
  rw [prepareWith, hr]
  change ((FilterChain.resolve c.filters o.id r.filters).mapError Fault.declaration >>= _) = _
  rw [hchain]
  rfl

/-- Whether a call is bound to filters that make this of its request. -/
def Applies (c : Client) (id : String) (args : List Argument) (options : List Options)
    (o : Operation) (m : Moment) (x : Except Fault Request) : Prop :=
  ∃ chain r, c.bound id args options = .ok (o, chain, r) ∧ chain.apply m r = x

theorem Applies.prepareWith_eq {m : Moment} {x : Except Fault Request}
    (h : c.Applies id args options o m x) :
    c.describe id = .ok o ∧ c.prepareWith m o args options = x := by
  obtain ⟨chain, r, hbound, rfl⟩ := h
  exact ⟨(bound_eq_ok_iff.1 hbound).1, prepareWith_of_bound hbound m⟩

theorem prepare_of_bound (h : c.bound id args options = .ok (o, chain, r)) (m : Moment) :
    c.prepare m id args options = chain.apply m r := by
  rw [prepare, (bound_eq_ok_iff.1 h).1]
  exact prepareWith_of_bound h m

theorem Applies.prepare_eq {m : Moment} {x : Except Fault Request}
    (h : c.Applies id args options o m x) : c.prepare m id args options = x := by
  obtain ⟨chain, r, hbound, rfl⟩ := h
  exact prepare_of_bound hbound m

theorem prepare_of_unbound (h : c.bound id args options = .error fault) (m : Moment) :
    c.prepare m id args options = .error fault := by
  rcases bind_eq_error_iff.1 h with hdescribe | ⟨o, ho, h⟩
  · exact bind_eq_error_iff.2 (.inl hdescribe)
  refine bind_eq_error_iff.2 (.inr ⟨o, ho, ?_⟩)
  rcases bind_eq_error_iff.1 h with hbind | ⟨r, hr, h⟩
  · exact bind_eq_error_iff.2 (.inl hbind)
  refine bind_eq_error_iff.2 (.inr ⟨r, hr, ?_⟩)
  rcases bind_eq_error_iff.1 h with hresolve | ⟨chain, -, hpure⟩
  · exact bind_eq_error_iff.2 (.inl hresolve)
  · cases hpure

end Client

namespace Attempt

/-- What an attempt does next: the session and its stage afterwards. -/
def next (s : Session) (a : Attempt) : Session × Stage :=
  match a.stage with
  | .called =>
    match s.client.bound a.id a.args a.options with
    | .ok (o, chain, r) => (s, .bound o chain r)
    | .error fault => (s, .unbound fault)
  | .bound o chain r => (s, .holding o chain r s.credentials)
  | .holding o chain r credentials => (s, .filtering o ⟨credentials, s.now⟩ chain.filters r)
  | .filtering o m [] r => (s, .prepared o m r)
  | .filtering o m ((_, filter) :: rest) r =>
    match (filter.apply m r).mapError (FilterChain.located r.operation) with
    | .ok r' => (s, .filtering o m rest r')
    | .error fault => (s, .refused o m fault)
  | .prepared o m r =>
    match a.purpose with
    | .preparation => (s, .prepared o m r)
    | .submission hasRuntime =>
      let (exchange, s') := s.dispatch hasRuntime r
      (s', .sent o m r exchange)
    | .retrying _ =>
      let (exchange, s') := s.dispatch true r
      (s', .sent o m r exchange)
  | .sent o m r exchange =>
    match s.wait ⟨o, exchange⟩ with
    | (some result, s') => (s', .resolved o m r result)
    | (none, s') => (s', .sent o m r exchange)
  | stage => (s, stage)

/-- The attempt that follows one whose stage is now another: there is one
when it has just ended and the policy says so. It begins from binding. -/
def following (p : RetryPolicy) (a : Attempt) (stage : Stage) : List Attempt :=
  match a.purpose, a.stage.result?, stage.result? with
  | .retrying tried, none, some result =>
    match p.verdict a.id tried.attempt result with
    | .again warning => [{ a with purpose := .retrying (tried.next warning), stage := .called }]
    | .settled _ => []
  | _, _, _ => []

end Attempt

/-! ## Workloads -/

/-- A session with the attempts that are under way. -/
structure Workload where
  session : Session
  attempts : List Attempt

namespace Workload

/-- What may happen next: other credentials or none are stored, the clock
goes on, the transport gets cues or permits, tasks go on, an exchange is
cancelled, a call is made, or an attempt takes its next step. -/
inductive Move where
  | store (credentials : Option Credentials)
  | clock (now : Int)
  | cues (cues : List Cue)
  | permits (count : ℕ)
  | tasks
  | cancel (exchange : ℕ)
  | call (id : String) (args : List Argument) (options : List Options) (purpose : Attempt.Purpose)
  | step (i : ℕ)

/-- A workload that has just begun. -/
def start (client : Client) (credentials : Option Credentials) (now : Int) (script : List Cue) :
    Workload := ⟨.start client credentials now script, []⟩

/-- An attempt takes its next step. -/
def step (i : ℕ) (w : Workload) : Workload :=
  match w.attempts[i]? with
  | none => w
  | some a =>
    { session := (a.next w.session).1
      attempts := w.attempts.set i { a with stage := (a.next w.session).2 } ++
        a.following w.session.client.retry (a.next w.session).2 }

/-- The session after something that is no attempt's step. -/
def aside : Move → Session → Session
  | .store credentials, s => s.setCredentials credentials
  | .clock now, s => { s with now }
  | .cues cues, s => { s with network := s.network.extend cues }
  | .permits count, s => { s with network := s.network.release count }
  | .tasks, s => s.run
  | .cancel exchange, s => s.cancel exchange
  | _, s => s

/-- The workload after a move. -/
def move : Move → Workload → Workload
  | .call id args options purpose, w =>
    { w with attempts := w.attempts ++ [⟨id, args, options, purpose, .called⟩] }
  | .step i, w => w.step i
  | m, w => { w with session := aside m w.session }

/-- The workload after some moves. -/
def run (moves : List Move) (w : Workload) : Workload := moves.foldl (fun w m => w.move m) w

end Workload

/-! ## What happens to a session -/

namespace Session

variable {s : Session} {P : Request → Prop} {Q : Outcome → Prop}

/-- Whether a session has kept its client and its credentials. -/
structure Keeps (s s' : Session) : Prop where
  client : s'.client = s.client
  credentials : s'.credentials = s.credentials

theorem keeps_dispatch {hasRuntime : Bool} {r : Request} :
    s.Keeps (s.dispatch hasRuntime r).2 := by
  rw [dispatch]
  split <;> exact ⟨rfl, rfl⟩

/-- **Waiting** is one poll, or two with tasks going on in between. -/
theorem await_eq_or (exchange : ℕ) : s.await exchange = s.poll exchange ∨
    s.await exchange = (s.poll exchange).2.run.poll exchange := by
  rw [await]
  rcases s.poll exchange with ⟨_ | outcome, s'⟩
  · exact .inr rfl
  · exact .inl rfl

theorem keeps_poll (exchange : ℕ) : s.Keeps (s.poll exchange).2 := ⟨rfl, rfl⟩

theorem keeps_wait {call : Call} : s.Keeps (s.wait call).2 := by
  change s.Keeps (s.await call.exchange).2
  rcases await_eq_or call.exchange with heq | heq <;> rw [heq]
  · exact keeps_poll call.exchange
  · have hfirst := keeps_poll (s := s) call.exchange
    have hsecond := keeps_poll (s := (s.poll call.exchange).2.run) call.exchange
    exact ⟨hsecond.client.trans hfirst.client, hsecond.credentials.trans hfirst.credentials⟩

theorem within_dispatch {hasRuntime : Bool} {r : Request} (hQ : Outcome.Closed Q)
    (h : s.network.Within P Q) (hr : P r) : (s.dispatch hasRuntime r).2.network.Within P Q := by
  rw [dispatch]
  split
  · exact Network.within_launch h hr
  · exact Network.within_strand hQ h hr

theorem within_poll (exchange : ℕ) (hQ : Outcome.Closed Q) (h : s.network.Within P Q) :
    (∀ outcome, (s.poll exchange).1 = some outcome → Q outcome) ∧
      (s.poll exchange).2.network.Within P Q := by
  have hx : (s.exchange exchange).Holds Q := by
    rw [Session.exchange]
    cases hfind : s.network.exchange? exchange with
    | none => exact Exchange.holds_start
    | some x => exact Network.holds_exchange? h hfind
  obtain ⟨houtcome, hpolled⟩ := Exchange.holds_poll hQ hx
  exact ⟨houtcome, Network.within_onExchange h fun _ _ => hpolled⟩

/-- **What is waited for** is an outcome of the transport's, resolved. -/
theorem within_wait (call : Call) (hQ : Outcome.Closed Q) (h : s.network.Within P Q) :
    (∀ result, (s.wait call).1 = some result →
      ∃ outcome, Q outcome ∧ s.client.resolver.resolve call.operation outcome = result) ∧
      (s.wait call).2.network.Within P Q := by
  have hawait : (∀ outcome, (s.await call.exchange).1 = some outcome → Q outcome) ∧
      (s.await call.exchange).2.network.Within P Q := by
    rcases await_eq_or call.exchange with heq | heq <;> rw [heq]
    · exact within_poll _ hQ h
    · exact within_poll _ hQ (Network.within_run hQ (within_poll _ hQ h).2)
  refine ⟨fun result hresult => ?_, hawait.2⟩
  obtain ⟨outcome, houtcome, hresolve⟩ := Option.map_eq_some_iff.1 hresult
  exact ⟨outcome, hawait.1 outcome houtcome, hresolve⟩

theorem follows_dispatch {hasRuntime : Bool} {r : Request} :
    s.network.Follows (s.dispatch hasRuntime r).2.network := by
  rw [dispatch]
  split
  · exact Network.follows_launch
  · exact Network.follows_strand

/-- A request that is handed over is the one of its exchange. -/
theorem requests_dispatch {hasRuntime : Bool} {r : Request} :
    ((s.dispatch hasRuntime r).2.network.flights.map Flight.request)[(s.dispatch hasRuntime r).1]? =
      some r := by
  rw [dispatch]
  split <;> simp [Network.launch, Network.strand]

theorem follows_poll {exchange : ℕ} : s.network.Follows (s.poll exchange).2.network :=
  Network.follows_update (.refl _) fun _ => rfl

theorem follows_wait {call : Call} : s.network.Follows (s.wait call).2.network := by
  change s.network.Follows (s.await call.exchange).2.network
  rcases await_eq_or call.exchange with heq | heq <;> rw [heq]
  · exact follows_poll
  · have hrun : s.network.Follows (s.poll call.exchange).2.run.network :=
      follows_poll.trans Network.follows_run
    exact hrun.trans follows_poll

end Session

/-! ## What a step of an attempt does -/

namespace Attempt

variable {s s' : Session} {a : Attempt} {stage stage' : Attempt.Stage}
variable {P : Request → Prop} {Q : Outcome → Prop} {n n' : Network}

/-- **What an attempt can do**, from one stage to the next. -/
inductive Step (s : Session) (a : Attempt) : Stage → Session → Stage → Prop
  | unbound {fault : Fault} (h : s.client.bound a.id a.args a.options = .error fault) :
    Step s a .called s (.unbound fault)
  | bound {o : Operation} {chain : FilterChain} {r : Request}
      (h : s.client.bound a.id a.args a.options = .ok (o, chain, r)) :
    Step s a .called s (.bound o chain r)
  | capture {o : Operation} {chain : FilterChain} {r : Request} :
    Step s a (.bound o chain r) s (.holding o chain r s.credentials)
  | time {o : Operation} {chain : FilterChain} {r : Request} {credentials : Option Credentials} :
    Step s a (.holding o chain r credentials) s (.filtering o ⟨credentials, s.now⟩ chain.filters r)
  | filter {o : Operation} {m : Moment} {id : String} {filter : Filter}
      {rest : List (String × Filter)} {r r' : Request}
      (h : (filter.apply m r).mapError (FilterChain.located r.operation) = .ok r') :
    Step s a (.filtering o m ((id, filter) :: rest) r) s (.filtering o m rest r')
  | refuse {o : Operation} {m : Moment} {id : String} {filter : Filter}
      {rest : List (String × Filter)} {r : Request} {fault : Fault}
      (h : (filter.apply m r).mapError (FilterChain.located r.operation) = .error fault) :
    Step s a (.filtering o m ((id, filter) :: rest) r) s (.refused o m fault)
  | prepare {o : Operation} {m : Moment} {r : Request} :
    Step s a (.filtering o m [] r) s (.prepared o m r)
  | send {o : Operation} {m : Moment} {r : Request} (hasRuntime : Bool) :
    Step s a (.prepared o m r) (s.dispatch hasRuntime r).2
      (.sent o m r (s.dispatch hasRuntime r).1)
  | wait {o : Operation} {m : Moment} {r : Request} {exchange : ℕ} :
    Step s a (.sent o m r exchange) (s.wait ⟨o, exchange⟩).2 (.sent o m r exchange)
  | resolve {o : Operation} {m : Moment} {r : Request} {exchange : ℕ}
      {result : Except Fault Resolution} (h : (s.wait ⟨o, exchange⟩).1 = some result) :
    Step s a (.sent o m r exchange) (s.wait ⟨o, exchange⟩).2 (.resolved o m r result)
  | stay (stage : Stage) : Step s a stage s stage

theorem step_next (s : Session) (a : Attempt) :
    Step s a a.stage (a.next s).1 (a.next s).2 := by
  cases hstage : a.stage with
  | called =>
    simp only [next, hstage]
    split
    · rename_i h
      exact .bound h
    · rename_i h
      exact .unbound h
  | filtering o m rest r =>
    cases rest with
    | nil =>
      simp only [next, hstage]
      exact .prepare
    | cons e rest =>
      simp only [next, hstage]
      split
      · rename_i h
        exact .filter h
      · rename_i h
        exact .refuse h
  | prepared o m r =>
    cases hpurpose : a.purpose with
    | preparation =>
      simp only [next, hstage, hpurpose]
      exact .stay _
    | submission hasRuntime =>
      simp only [next, hstage, hpurpose]
      exact .send hasRuntime
    | retrying tried =>
      simp only [next, hstage, hpurpose]
      exact .send true
  | sent o m r exchange =>
    simp only [next, hstage]
    rcases hwait : s.wait ⟨o, exchange⟩ with ⟨_ | result, s'⟩
    · have h : Step s a (.sent o m r exchange) (s.wait ⟨o, exchange⟩).2
          (.sent o m r exchange) := .wait
      rwa [hwait] at h
    · have h : Step s a (.sent o m r exchange) (s.wait ⟨o, exchange⟩).2
          (.resolved o m r result) := .resolve (congrArg Prod.fst hwait)
      rwa [hwait] at h
  | bound o chain r =>
    simp only [next, hstage]
    exact .capture
  | holding o chain r credentials =>
    simp only [next, hstage]
    exact .time
  | _ =>
    simp only [next, hstage]
    exact .stay _

/-- Whether a stage is one that preparing the call leads to, and a result
that of an outcome of a class. -/
def Stage.Reached (Q : Outcome → Prop) (c : Client) (id : String) (args : List Argument)
    (options : List Options) : Stage → Prop
  | called => True
  | unbound fault => c.bound id args options = .error fault
  | bound o chain r => c.bound id args options = .ok (o, chain, r)
  | holding o chain r _ => c.bound id args options = .ok (o, chain, r)
  | filtering o m rest r => c.Applies id args options o m (FilterChain.applyAll m rest r)
  | refused o m fault => c.Applies id args options o m (.error fault)
  | prepared o m r => c.Applies id args options o m (.ok r)
  | sent o m r _ => c.Applies id args options o m (.ok r)
  | resolved o m r result => c.Applies id args options o m (.ok r) ∧
      ∃ outcome, Q outcome ∧ c.resolver.resolve o outcome = result

/-- Whether the exchange that a stage waits for is that of its request. -/
def Stage.Flying (n : Network) : Stage → Prop
  | sent _ _ r exchange => (n.flights.map Flight.request)[exchange]? = some r
  | _ => True

namespace Step

/-- **An attempt** changes neither the client nor what is stored. -/
theorem keeps (h : Step s a stage s' stage') : s.Keeps s' := by
  cases h with
  | send hasRuntime => exact Session.keeps_dispatch
  | wait => exact Session.keeps_wait
  | resolve => exact Session.keeps_wait
  | _ => exact ⟨rfl, rfl⟩

/-- **Each step goes on** with what preparing the call comes to. -/
theorem reached (hQ : Outcome.Closed Q) (hn : s.network.Within P Q)
    (h : Step s a stage s' stage') (hr : stage.Reached Q s.client a.id a.args a.options) :
    stage'.Reached Q s.client a.id a.args a.options := by
  cases h with
  | unbound h => exact h
  | bound h => exact h
  | capture => exact hr
  | time => exact ⟨_, _, hr, rfl⟩
  | filter h =>
    rw [Stage.Reached, FilterChain.applyAll, h] at hr
    exact hr
  | refuse h =>
    rw [Stage.Reached, FilterChain.applyAll, h] at hr
    exact hr
  | prepare => exact hr
  | send hasRuntime => exact hr
  | wait => exact hr
  | resolve h => exact ⟨hr, (Session.within_wait _ hQ hn).1 _ h⟩
  | stay => exact hr

/-- **A request that has left the filters** stays what it is. -/
theorem left (h : Step s a stage s' stage') {x : Moment × Request}
    (hx : stage.left? = some x) : stage'.left? = some x := by
  cases h with
  | send hasRuntime => exact hx
  | wait => exact hx
  | resolve => exact hx
  | stay => exact hx
  | _ => cases hx

/-- **What is captured** is what the store holds, and stays what it is. -/
theorem captured {c : Option Credentials} (h : Step s a stage s' stage')
    (hc : stage'.captured? = some c) :
    stage.captured? = some c ∨ (∃ o chain r, stage = .bound o chain r) ∧ s.credentials = c := by
  cases h with
  | capture => exact .inr ⟨⟨_, _, _, rfl⟩, Option.some.inj hc⟩
  | unbound => cases hc
  | bound => cases hc
  | _ => exact .inl hc

theorem within (hQ : Outcome.Closed Q) (hn : s.network.Within P Q)
    (h : Step s a stage s' stage') (hleft : ∀ m r, stage.left? = some (m, r) → P r) :
    s'.network.Within P Q := by
  cases h with
  | send hasRuntime => exact Session.within_dispatch hQ hn (hleft _ _ rfl)
  | wait => exact (Session.within_wait _ hQ hn).2
  | resolve => exact (Session.within_wait _ hQ hn).2
  | _ => exact hn

theorem follows (h : Step s a stage s' stage') : s.network.Follows s'.network := by
  cases h with
  | send hasRuntime => exact Session.follows_dispatch
  | wait => exact Session.follows_wait
  | resolve => exact Session.follows_wait
  | _ => exact .refl _

end Step

/-- An exchange stays that of its request. -/
theorem Stage.Flying.mono (h : n.Follows n') (hf : stage.Flying n) : stage.Flying n' := by
  cases stage with
  | sent o m r exchange =>
    obtain ⟨others, hothers⟩ := h.requests
    obtain ⟨hlt, -⟩ := List.getElem?_eq_some_iff.1 hf
    rw [Flying, ← hothers, List.getElem?_append_left hlt]
    exact hf
  | _ => trivial

theorem Step.flying (h : Step s a stage s' stage') (hf : stage.Flying s.network) :
    stage'.Flying s'.network := by
  cases h with
  | send hasRuntime => exact Session.requests_dispatch
  | wait => exact hf.mono Session.follows_wait
  | stay => exact hf
  | _ => trivial

end Attempt

namespace Workload

variable {w : Workload} {m : Move} {moves later : List Move} {a a' : Attempt} {i j : ℕ}
variable {P : Request → Prop} {Q : Outcome → Prop}

/-! ## What a move does -/

theorem run_append : w.run (moves ++ later) = (w.run moves).run later := List.foldl_append

theorem run_concat : w.run (moves ++ [m]) = (w.run moves).move m := run_append

/-- The step of an attempt. -/
theorem step_eq (h : w.attempts[i]? = some a) : w.move (.step i) =
    { session := (a.next w.session).1
      attempts := w.attempts.set i { a with stage := (a.next w.session).2 } ++
        a.following w.session.client.retry (a.next w.session).2 } := by
  rw [move, step, h]

theorem step_of_none (h : w.attempts[i]? = none) : w.move (.step i) = w := by
  rw [move, step, h]

theorem called_of_following {p : RetryPolicy} {stage : Attempt.Stage}
    (h : a' ∈ a.following p stage) : a'.stage = .called := by
  rw [Attempt.following] at h
  split at h
  · split at h
    · rw [List.mem_singleton.1 h]
    · cases h
  · cases h

theorem getElem?_append_or {xs ys : List Attempt} (h : (xs ++ ys)[j]? = some a') :
    xs[j]? = some a' ∨ xs[j]? = none ∧ a' ∈ ys := by
  rw [List.getElem?_append] at h
  split at h
  · exact .inl h
  · rename_i hj
    exact .inr ⟨List.getElem?_eq_none (Nat.not_lt.1 hj), List.mem_of_getElem? h⟩

theorem getElem?_append_of_some {xs : List Attempt} (h : xs[j]? = some a) (ys : List Attempt) :
    (xs ++ ys)[j]? = some a := by
  obtain ⟨hlt, -⟩ := List.getElem?_eq_some_iff.1 h
  rw [List.getElem?_append_left hlt, h]

/-- **An attempt after a move** is as it was, has taken its next step, or has
just been called. -/
theorem attempt_of_move (h : (w.move m).attempts[j]? = some a') :
    w.attempts[j]? = some a' ∨
    (∃ a, m = .step j ∧ w.attempts[j]? = some a ∧
      a' = { a with stage := (a.next w.session).2 }) ∨
    (w.attempts[j]? = none ∧ a'.stage = .called) := by
  cases m with
  | call id args options purpose =>
    rcases getElem?_append_or h with h | ⟨hnone, hmem⟩
    · exact .inl h
    · rw [List.mem_singleton.1 hmem]
      exact .inr (.inr ⟨hnone, rfl⟩)
  | step i =>
    cases hi : w.attempts[i]? with
    | none =>
      rw [step_of_none hi] at h
      exact .inl h
    | some a =>
      rw [step_eq hi] at h
      rcases getElem?_append_or h with h | ⟨hnone, hmem⟩
      · by_cases hij : i = j
        · subst hij
          obtain ⟨hlt, -⟩ := List.getElem?_eq_some_iff.1 hi
          rw [List.getElem?_set_self hlt] at h
          exact .inr (.inl ⟨a, rfl, hi, (Option.some.inj h).symm⟩)
        · rw [List.getElem?_set_ne hij] at h
          exact .inl h
      · rw [List.getElem?_eq_none_iff, List.length_set, ← List.getElem?_eq_none_iff] at hnone
        exact .inr (.inr ⟨hnone, called_of_following hmem⟩)
  | _ => exact .inl h

/-- **An attempt stays as it is**, or takes its next step. -/
theorem attempt_move (h : w.attempts[j]? = some a) (m : Move) :
    (w.move m).attempts[j]? = some a ∨
    (m = .step j ∧ (w.move m).attempts[j]? = some { a with stage := (a.next w.session).2 }) := by
  cases m with
  | call id args options purpose => exact .inl (getElem?_append_of_some h _)
  | step i =>
    cases hi : w.attempts[i]? with
    | none =>
      rw [step_of_none hi]
      exact .inl h
    | some b =>
      rw [step_eq hi]
      by_cases hij : i = j
      · subst hij
        cases hi.symm.trans h
        obtain ⟨hlt, -⟩ := List.getElem?_eq_some_iff.1 h
        exact .inr ⟨rfl, getElem?_append_of_some (List.getElem?_set_self hlt) _⟩
      · exact .inl (getElem?_append_of_some ((List.getElem?_set_ne hij).trans h) _)
  | _ => exact .inl h

theorem attempt_step (h : w.attempts[i]? = some a) :
    (w.move (.step i)).attempts[i]? = some { a with stage := (a.next w.session).2 } := by
  obtain ⟨hlt, -⟩ := List.getElem?_eq_some_iff.1 h
  rw [step_eq h]
  exact getElem?_append_of_some (List.getElem?_set_self hlt) _

/-- The session after a step is that of the attempt that takes it. -/
theorem session_step (w : Workload) (i : ℕ) : (w.move (.step i)).session = w.session ∨
    ∃ a ∈ w.attempts, (w.move (.step i)).session = (a.next w.session).1 := by
  cases hi : w.attempts[i]? with
  | none => exact .inl (congrArg session (step_of_none hi))
  | some a => exact .inr ⟨a, List.mem_of_getElem? hi, congrArg session (step_eq hi)⟩

/-! ## What every run preserves -/

theorem client_move : (w.move m).session.client = w.session.client := by
  cases m with
  | step i =>
    rcases w.session_step i with heq | ⟨a, -, heq⟩ <;> rw [heq]
    exact (a.step_next w.session).keeps.client
  | _ => rfl

theorem client_run : (w.run moves).session.client = w.session.client := by
  induction moves generalizing w with
  | nil => rfl
  | cons m moves ih => exact ih.trans client_move

/-- What is stored after a move. -/
def Move.leaves (held : Option Credentials) : Move → Option Credentials
  | store credentials => credentials
  | _ => held

/-- What is stored after some moves: what was stored last, or what had been
there before. -/
def stored (held : Option Credentials) (moves : List Move) : Option Credentials :=
  moves.foldl Move.leaves held

theorem credentials_move : (w.move m).session.credentials = m.leaves w.session.credentials := by
  cases m with
  | step i =>
    rcases w.session_step i with heq | ⟨a, -, heq⟩ <;> rw [heq]
    · rfl
    · exact (a.step_next w.session).keeps.credentials
  | _ => rfl

theorem credentials_run :
    (w.run moves).session.credentials = stored w.session.credentials moves := by
  induction moves generalizing w with
  | nil => rfl
  | cons m moves ih =>
    refine ih.trans ?_
    rw [credentials_move]
    rfl

/-- **A network goes on** with each move. -/
theorem follows_move : w.session.network.Follows (w.move m).session.network := by
  cases m with
  | step i =>
    rcases w.session_step i with heq | ⟨a, -, heq⟩ <;> rw [heq]
    · exact .refl _
    · exact (a.step_next w.session).follows
  | permits count => exact Network.follows_release
  | tasks => exact Network.follows_run
  | cancel exchange => exact Network.follows_update (.refl _) fun _ => rfl
  | _ => exact ⟨List.prefix_rfl, List.prefix_rfl⟩

theorem follows_run : w.session.network.Follows (w.run moves).session.network := by
  induction moves generalizing w with
  | nil => exact .refl _
  | cons m moves ih => exact follows_move.trans ih

/-- **A request that has left the filters** stays what it is. -/
theorem left_move {x : Moment × Request} (h : w.attempts[i]? = some a)
    (hx : a.stage.left? = some x) (m : Move) : ∃ stage,
      (w.move m).attempts[i]? = some { a with stage } ∧ stage.left? = some x := by
  rcases attempt_move h m with hsame | ⟨-, hstep⟩
  · exact ⟨a.stage, hsame, hx⟩
  · exact ⟨_, hstep, (a.step_next w.session).left hx⟩

theorem left_run {x : Moment × Request} (h : w.attempts[i]? = some a)
    (hx : a.stage.left? = some x) : ∃ stage,
      (w.run moves).attempts[i]? = some { a with stage } ∧ stage.left? = some x := by
  induction moves generalizing w a with
  | nil => exact ⟨a.stage, h, hx⟩
  | cons m moves ih =>
    obtain ⟨stage, hmove, hleft⟩ := left_move h hx m
    obtain ⟨stage', hrun, hleft'⟩ := ih hmove hleft
    exact ⟨stage', hrun, hleft'⟩

/-- Whether a request has left the filters. -/
def Left (w : Workload) (r : Request) : Prop := ∃ a ∈ w.attempts, ∃ m, a.stage.left? = some (m, r)

/-- Whether the outcomes that a move brings belong to a class. -/
def Move.Within (Q : Outcome → Prop) : Move → Prop
  | .cues more => ∀ cue ∈ more, cue.reaction.Within Q
  | _ => True

theorem Move.within_true (m : Move) : m.Within fun _ => True := by
  cases m with
  | cues more => exact fun cue _ => cue.reaction.within_true
  | _ => trivial

/-- **What holds of a workload at any time**: attempts are at stages that
preparing their calls leads to, they wait for exchanges of their requests,
and the transport knows requests that have left the filters and no others. -/
structure Sound (Q : Outcome → Prop) (w : Workload) : Prop where
  reached : ∀ a ∈ w.attempts, a.stage.Reached Q w.session.client a.id a.args a.options
  flying : ∀ a ∈ w.attempts, a.stage.Flying w.session.network
  network : w.session.network.Within w.Left Q

theorem sound_start (client : Client) (credentials : Option Credentials) (now : Int)
    {script : List Cue} (h : ∀ cue ∈ script, cue.reaction.Within Q) :
    (start client credentials now script).Sound Q :=
  ⟨fun _ ha => absurd ha List.not_mem_nil, fun _ ha => absurd ha List.not_mem_nil,
    Network.within_start h⟩

theorem Left.move {r : Request} (h : w.Left r) (m : Move) : (w.move m).Left r := by
  obtain ⟨a, ha, moment, hleft⟩ := h
  obtain ⟨i, hi⟩ := List.mem_iff_getElem?.1 ha
  obtain ⟨stage, hmove, hstage⟩ := left_move hi hleft m
  exact ⟨_, List.mem_of_getElem? hmove, moment, hstage⟩

theorem within_move (hQ : Outcome.Closed Q) (hm : m.Within Q)
    (h : w.session.network.Within w.Left Q) : (w.move m).session.network.Within w.Left Q := by
  cases m with
  | step i =>
    rcases w.session_step i with heq | ⟨a, ha, heq⟩ <;> rw [heq]
    · exact h
    · exact (a.step_next w.session).within hQ h fun m r hleft => ⟨a, ha, m, hleft⟩
  | cues cues => exact Network.within_extend h hm
  | permits count => exact Network.within_release h
  | tasks => exact Network.within_run hQ h
  | cancel exchange => exact Network.within_onExchange h fun _ hx => Exchange.holds_cancel hx
  | _ => exact h

theorem sound_move (hQ : Outcome.Closed Q) (hm : m.Within Q) (h : w.Sound Q) :
    (w.move m).Sound Q := by
  refine ⟨fun a' ha' => ?_, fun a' ha' => ?_,
    (within_move hQ hm h.network).mono fun r hr => hr.move m⟩
  · rw [client_move]
    obtain ⟨j, hj⟩ := List.mem_iff_getElem?.1 ha'
    rcases attempt_of_move hj with hsame | ⟨a, -, ha, rfl⟩ | ⟨-, hcalled⟩
    · exact h.reached a' (List.mem_of_getElem? hsame)
    · have hreached := (a.step_next w.session).reached hQ h.network
        (h.reached a (List.mem_of_getElem? ha))
      exact hreached
    · rw [hcalled]
      trivial
  · obtain ⟨j, hj⟩ := List.mem_iff_getElem?.1 ha'
    rcases attempt_of_move hj with hsame | ⟨a, rfl, ha, rfl⟩ | ⟨-, hcalled⟩
    · exact (h.flying a' (List.mem_of_getElem? hsame)).mono follows_move
    · rw [step_eq ha]
      exact (a.step_next w.session).flying (h.flying a (List.mem_of_getElem? ha))
    · rw [hcalled]
      trivial

theorem sound_run (hQ : Outcome.Closed Q) (hmoves : ∀ m ∈ moves, m.Within Q) (h : w.Sound Q) :
    (w.run moves).Sound Q := by
  induction moves generalizing w with
  | nil => exact h
  | cons m moves ih =>
    rw [List.forall_mem_cons] at hmoves
    exact ih hmoves.2 (sound_move hQ hmoves.1 h)

end Workload

end RestCall

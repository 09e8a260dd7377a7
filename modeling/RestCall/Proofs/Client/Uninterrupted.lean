import RestCall.Proofs.Client.Workload
import RestCall.Proofs.Retry.Attempts
/-!
# RestCall — calls that nobody interrupts

A session prepares, submits and invokes a call in one go. Each of these is
a run of a workload in which the attempts of that call take their steps and
nothing else happens: what is said of all workloads is said of them as well.
And whatever an attempt was interrupted by before, once it has captured
credentials it needs nobody else to come to its end, or to where its request
has left the filters (`comes_of_captured`).
-/

namespace RestCall

namespace Attempt

variable {s : Session} {a a' : Attempt} {stage stage' : Attempt.Stage} {p : RetryPolicy}
variable {o : Operation} {m : Moment} {r : Request} {hasRuntime : Bool}

/-- Whether what is made for this purpose is handed over, and then whether
there is a runtime. -/
def Purpose.runtime? : Purpose → Option Bool
  | preparation => none
  | submission hasRuntime => some hasRuntime
  | retrying _ => some true

theorem next_prepared (hstage : a.stage = .prepared o m r)
    (hpurpose : a.purpose.runtime? = some hasRuntime) :
    a.next s = ((s.dispatch hasRuntime r).2, .sent o m r (s.dispatch hasRuntime r).1) := by
  cases hp : a.purpose with
  | preparation =>
    rw [hp] at hpurpose
    cases hpurpose
  | submission b =>
    rw [hp] at hpurpose
    cases hpurpose
    simp only [next, hstage, hp]
  | retrying tried =>
    rw [hp] at hpurpose
    cases hpurpose
    simp only [next, hstage, hp]

/-- Nothing follows an attempt that goes nowhere. -/
theorem not_mem_following_self : a' ∉ a.following p a.stage := by
  intro h
  rw [following] at h
  split at h
  · rename_i hnone hsome
    rw [hnone] at hsome
    cases hsome
  · cases h

/-- What follows an attempt follows it from any stage in between. -/
theorem mem_following_of_mem (hnone : stage.result? = none)
    (h : a' ∈ a.following p stage') : a' ∈ { a with stage }.following p stage' := by
  rw [following] at h ⊢
  split at h
  · rename_i hpurpose _ hsome
    simp only [hpurpose, hnone, hsome]
    exact h
  · cases h

end Attempt

namespace Workload

variable {w : Workload} {a : Attempt} {i : ℕ} {s s' : Session} {stage stage' : Attempt.Stage}
variable {o : Operation} {chain : FilterChain} {r : Request} {moment : Moment}
variable {credentials : Option Credentials} {hasRuntime : Bool}

/-- Whether an attempt's own steps lead it to a stage and the session to
another, so that all attempts that follow have been made. -/
def Comes (w : Workload) (i : ℕ) (a : Attempt) (s : Session) (stage : Attempt.Stage) : Prop :=
  ∃ moves : List Move, (∀ m ∈ moves, m = .step i) ∧ (w.run moves).session = s ∧
    (w.run moves).attempts[i]? = some { a with stage } ∧
    ∀ a' ∈ a.following w.session.client.retry stage, a' ∈ (w.run moves).attempts

theorem comes_self (h : w.attempts[i]? = some a) : w.Comes i a w.session a.stage :=
  ⟨[], fun _ hm => absurd hm List.not_mem_nil, rfl, h,
    fun _ ha' => absurd ha' Attempt.not_mem_following_self⟩

namespace Comes

/-- **An attempt goes on** with its next step. -/
theorem next (h : w.Comes i a s stage) (hnone : stage.result? = none)
    (hnext : { a with stage }.next s = (s', stage')) : w.Comes i a s' stage' := by
  obtain ⟨moves, honly, rfl, hattempt, -⟩ := h
  have hlast := step_eq hattempt
  refine ⟨moves ++ [.step i], fun m hm => ?_, ?_, ?_, fun a' ha' => ?_⟩
  · rcases List.mem_append.1 hm with hm | hm
    · exact honly m hm
    · exact List.mem_singleton.1 hm
  · rw [run_concat, hlast, hnext]
  · rw [run_concat, attempt_step hattempt, hnext]
  · rw [run_concat, hlast, hnext, client_run]
    exact List.mem_append_right _ (Attempt.mem_following_of_mem hnone ha')

/-! ## As far as the filters -/

/-- What the filters make of a request: it is prepared, or refused. -/
def filtered (o : Operation) (m : Moment) : Except Fault Request → Attempt.Stage
  | .ok r => .prepared o m r
  | .error fault => .refused o m fault

theorem of_filtering {rest : List (String × Filter)}
    (h : w.Comes i a s (.filtering o moment rest r)) :
    w.Comes i a s (filtered o moment (FilterChain.applyAll moment rest r)) := by
  induction rest generalizing r with
  | nil => exact h.next rfl rfl
  | cons e rest ih =>
    rw [FilterChain.applyAll]
    cases hfilter : (e.2.apply moment r).mapError (FilterChain.located r.operation) with
    | ok r' =>
      have hnext : w.Comes i a s (.filtering o moment rest r') :=
        h.next rfl (by simp only [Attempt.next, hfilter])
      exact ih hnext
    | error fault =>
      refine h.next rfl ?_
      simp only [Attempt.next, hfilter]
      rfl

theorem of_holding (h : w.Comes i a s (.holding o chain r credentials)) :
    w.Comes i a s (filtered o ⟨credentials, s.now⟩ (chain.apply ⟨credentials, s.now⟩ r)) :=
  of_filtering (h.next rfl rfl)

theorem of_bound (h : w.Comes i a s (.bound o chain r)) :
    w.Comes i a s (filtered o s.moment (chain.apply s.moment r)) :=
  of_holding (h.next rfl rfl)

end Comes

/-- Whether an attempt has ended, or its request has left the filters. -/
def Past (stage : Attempt.Stage) : Prop := stage.left?.isSome = true ∨ stage.result?.isSome = true

theorem past_filtered (x : Except Fault Request) :
    (Comes.filtered o moment x).captured? = some moment.credentials ∧
      Past (Comes.filtered o moment x) := by
  cases x with
  | ok r => exact ⟨rfl, .inl rfl⟩
  | error fault => exact ⟨rfl, .inr rfl⟩

/-- **An attempt that has captured credentials** comes to its end with them,
or its request leaves the filters. -/
theorem comes_of_captured (h : w.attempts[i]? = some a)
    (hc : a.stage.captured? = some credentials) :
    ∃ stage, w.Comes i a w.session stage ∧ stage.captured? = some credentials ∧ Past stage := by
  have hself := comes_self h
  cases hstage : a.stage with
  | holding o chain r c =>
    rw [hstage] at hc hself
    cases hc
    exact ⟨_, hself.of_holding, past_filtered _⟩
  | filtering o moment rest r =>
    rw [hstage] at hc hself
    cases hc
    exact ⟨_, hself.of_filtering, past_filtered _⟩
  | refused => exact ⟨a.stage, hself, hc, .inr (by rw [hstage]; rfl)⟩
  | prepared => exact ⟨a.stage, hself, hc, .inl (by rw [hstage]; rfl)⟩
  | sent => exact ⟨a.stage, hself, hc, .inl (by rw [hstage]; rfl)⟩
  | resolved => exact ⟨a.stage, hself, hc, .inl (by rw [hstage]; rfl)⟩
  | _ =>
    rw [hstage] at hc
    cases hc

/-! ## Preparing, submitting, invoking -/

/-- **Preparing a call in one go** is a run of its attempt that nobody
interrupts. -/
theorem comes_of_prepare (h : w.attempts[i]? = some a) (hcalled : a.stage = .called) :
    ∃ stage, w.Comes i a w.session stage ∧
      match w.session.prepare a.id a.args a.options with
      | .ok r => ∃ o, w.session.client.describe a.id = .ok o ∧
          stage = .prepared o w.session.moment r
      | .error fault => stage.result? = some (.error fault) := by
  have hself := comes_self h
  rw [hcalled] at hself
  rw [Session.prepare]
  cases hbound : w.session.client.bound a.id a.args a.options with
  | error fault =>
    refine ⟨.unbound fault, hself.next rfl (by simp only [Attempt.next, hbound]), ?_⟩
    rw [Client.prepare_of_unbound hbound]
    rfl
  | ok called =>
    obtain ⟨o, chain, r⟩ := called
    have hcomes : w.Comes i a w.session (.bound o chain r) :=
      hself.next rfl (by simp only [Attempt.next, hbound])
    refine ⟨_, hcomes.of_bound, ?_⟩
    rw [Client.prepare_of_bound hbound]
    cases chain.apply w.session.moment r with
    | ok r' => exact ⟨o, (Client.bound_eq_ok_iff.1 hbound).1, rfl⟩
    | error fault => rfl

/-- What submitting comes to is what preparing comes to. -/
theorem submit_eq (s : Session) (hasRuntime : Bool) (id : String) (args : List Argument)
    (options : List Options) : s.submit hasRuntime id args options = (do
      let o ← s.client.describe id
      let r ← s.prepare id args options
      return (⟨o, (s.dispatch hasRuntime r).1⟩, (s.dispatch hasRuntime r).2)) := by
  rw [Session.submit, Session.prepare, Client.prepare]
  cases s.client.describe id <;> rfl

/-- **Submitting a call in one go** is such a run as well. -/
theorem comes_of_submit (h : w.attempts[i]? = some a) (hcalled : a.stage = .called)
    (hpurpose : a.purpose.runtime? = some hasRuntime) :
    match w.session.submit hasRuntime a.id a.args a.options with
    | .ok (call, s') => ∃ m r, w.Comes i a s' (.sent call.operation m r call.exchange)
    | .error fault => ∃ stage, w.Comes i a w.session stage ∧
        stage.result? = some (.error fault) := by
  obtain ⟨stage, hcomes, hprepare⟩ := comes_of_prepare h hcalled
  rw [submit_eq]
  cases hprepared : w.session.prepare a.id a.args a.options with
  | ok r =>
    rw [hprepared] at hprepare
    obtain ⟨o, ho, rfl⟩ := hprepare
    rw [ho]
    exact ⟨w.session.moment, r, hcomes.next rfl (Attempt.next_prepared rfl hpurpose)⟩
  | error fault =>
    rw [hprepared] at hprepare
    cases hdescribe : w.session.client.describe a.id with
    | ok o => exact ⟨stage, hcomes, hprepare⟩
    | error fault' =>
      have hfault : w.session.prepare a.id a.args a.options = .error fault' :=
        bind_eq_error_iff.2 (.inl hdescribe)
      obtain rfl : fault = fault' := Except.error.inj (hprepared.symm.trans hfault)
      exact ⟨stage, hcomes, hprepare⟩

/-- **Invoking a call in one go** is such a run as well. -/
theorem comes_of_invoke (h : w.attempts[i]? = some a) (hcalled : a.stage = .called)
    (hpurpose : a.purpose.runtime? = some true) :
    ∃ stage, w.Comes i a (w.session.invoke a.id a.args a.options).2 stage ∧
      stage.result? = (w.session.invoke a.id a.args a.options).1 := by
  have hsubmit := comes_of_submit h hcalled hpurpose
  rw [Session.invoke]
  cases hsubmitted : w.session.submit true a.id a.args a.options with
  | error fault =>
    rw [hsubmitted] at hsubmit
    exact hsubmit
  | ok submitted =>
    obtain ⟨⟨o, exchange⟩, s'⟩ := submitted
    rw [hsubmitted] at hsubmit
    obtain ⟨m, r, hcomes⟩ := hsubmit
    change ∃ stage, w.Comes i a (s'.wait ⟨o, exchange⟩).2 stage ∧
      stage.result? = (s'.wait ⟨o, exchange⟩).1
    rcases hwait : s'.wait ⟨o, exchange⟩ with ⟨_ | result, s''⟩
    · exact ⟨.sent o m r exchange, hcomes.next rfl (by simp only [Attempt.next, hwait]), rfl⟩
    · exact ⟨.resolved o m r result, hcomes.next rfl (by simp only [Attempt.next, hwait]), rfl⟩

/-! ## Trying again -/

theorem mem_following {p : RetryPolicy} {tried : RetryPolicy.Attempting}
    {result : Except Fault Resolution} {warning : Warning} (hcalled : a.stage = .called)
    (hpurpose : a.purpose = .retrying tried) (hresult : stage.result? = some result)
    (hverdict : p.verdict a.id tried.attempt result = .again warning) :
    { a with purpose := .retrying (tried.next warning) } ∈ a.following p stage := by
  have hnone : a.stage.result? = none := by
    rw [hcalled]
    rfl
  simp only [Attempt.following, hpurpose, hnone, hresult, hverdict, ← hcalled]
  exact List.mem_cons_self

/-- Whether steps of attempts lead to what trying a call comes to: a result,
where there is one, how often it was tried, and the session. -/
def Tries (w : Workload)
    (x : Option (Except Fault Resolution) × RetryPolicy.Attempting × Session) : Prop :=
  ∃ (moves : List Move) (j : ℕ) (a : Attempt), (∀ m ∈ moves, ∃ i, m = Move.step i) ∧
    (w.run moves).attempts[j]? = some a ∧ a.stage.result? = x.1 ∧
    a.purpose = .retrying x.2.1 ∧ (w.run moves).session = x.2.2

/-- **Following a policy in one go** is a run of the attempts that it makes,
one after another. -/
theorem tries_of_follow {id : String} {args : List Argument} {options : List Options}
    {tried : RetryPolicy.Attempting} (hs : w.session = s)
    (h : w.attempts[i]? = some ⟨id, args, options, .retrying tried, .called⟩) :
    w.Tries (s.client.retry.follow id (Session.invoke id args options) tried s) := by
  have hretry : w.session.client.retry = s.client.retry := by rw [hs]
  -- on the attempts that the policy makes: each is there when the one before has ended
  generalize s.client.retry = p at hretry
  fun_induction RetryPolicy.follow p id (Session.invoke id args options) tried s
    generalizing w i with
  | case1 tried s s' hinvoke =>
    obtain ⟨stage, ⟨moves, honly, hsession, hattempt, -⟩, hresult⟩ := comes_of_invoke h rfl rfl
    rw [hs, hinvoke] at hsession hresult
    exact ⟨moves, i, _, fun m hm => ⟨i, honly m hm⟩, hattempt, hresult, rfl, hsession⟩
  | case2 tried s result s' hinvoke settled hverdict =>
    obtain ⟨stage, ⟨moves, honly, hsession, hattempt, -⟩, hresult⟩ := comes_of_invoke h rfl rfl
    rw [hs, hinvoke] at hsession hresult
    rw [RetryPolicy.eq_of_settled hverdict]
    exact ⟨moves, i, _, fun m hm => ⟨i, honly m hm⟩, hattempt, hresult, rfl, hsession⟩
  | case3 tried s result s' hinvoke warning hverdict ih =>
    obtain ⟨stage, ⟨moves, honly, hsession, -, hfollowing⟩, hresult⟩ := comes_of_invoke h rfl rfl
    rw [hs, hinvoke] at hsession hresult
    rw [hretry] at hfollowing
    obtain ⟨j, hj⟩ := List.mem_iff_getElem?.1
      (hfollowing _ (mem_following rfl rfl hresult hverdict))
    obtain ⟨moves', k, a, hsteps, hattempt, hend⟩ :=
      ih hsession hj (by rw [client_run, hretry])
    rw [← run_append] at hattempt hend
    refine ⟨moves ++ moves', k, a, fun m hm => ?_, hattempt, hend⟩
    rcases List.mem_append.1 hm with hm | hm
    · exact ⟨i, honly m hm⟩
    · exact hsteps m hm

/-- **Invoking a call with retries in one go** is a run of its attempts that
nobody interrupts; the warnings of all of them are logged. -/
theorem tries_of_invokeWithRetry {id : String} {args : List Argument} {options : List Options}
    (h : w.attempts[i]? = some ⟨id, args, options, .retrying .first, .called⟩) :
    ∃ tried s, w.Tries ((w.session.invokeWithRetry id args options).1, tried, s) ∧
      (w.session.invokeWithRetry id args options).2 =
        { s with warnings := s.warnings ++ tried.warnings } :=
  ⟨_, _, tries_of_follow rfl h, rfl⟩

end Workload

end RestCall

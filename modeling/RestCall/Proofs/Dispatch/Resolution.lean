import Mathlib.Data.Nat.Notation
import RestCall.Client.Session
/-!
# RestCall — an exchange resolves once

The task of an exchange, those who cancel it and the one who polls it take
their steps in any order. Between any two steps of one party those of the
others may fall: a cancellation between settling and sending, a completion
between striking and signalling, the end of the task in the middle of a
poll. A race is an exchange with what the parties are in the middle of;
delivering, cancelling and polling are runs of its moves that nobody
interrupts.

Whatever the order, the state is settled once and the outcome that is first
given is the one that settled it (`single_resolution`). The task is taken
to reach its end: it completes, or it notices the wish to cancel. One that
is lost on the way is no party of a race.
-/

namespace RestCall

open Exchange

namespace Exchange

variable {x : Exchange} {outcome : Outcome}

/-! ## What a poll hears -/

theorem isCancelled_iff : x.isCancelled = true ↔ x.state = .cancelled := beq_iff_eq

theorem hear_of_open (h : x.channel = .open) : x.hear = (.open, x) := by
  rw [hear, h]

theorem hear_of_sent (h : x.channel = .sent outcome) :
    x.hear = (.sent outcome, { x with listening := false }) := by
  obtain ⟨state, wanted, task, channel, listening⟩ := x
  obtain rfl : channel = .sent outcome := h
  rfl

theorem hear_of_dropped (h : x.channel = .dropped) :
    x.hear = (.dropped, { x with listening := false }) := by
  obtain ⟨state, wanted, task, channel, listening⟩ := x
  obtain rfl : channel = .dropped := h
  rfl

theorem conclude_of_cancelled (h : x.state = .cancelled) : x.conclude = .error .cancelled := by
  rw [conclude, if_pos (isCancelled_iff.2 h)]

end Exchange

/-- How far the holder of the handle is with a poll: not polling, past the
first look, or told that the task has left the channel without an outcome. -/
inductive Race.Polling where
  | idle
  | looked
  | deserted

/-- An exchange in the middle of things: how many have struck and not yet
signalled, how far the poll is, what the transport has brought, and what
polls have answered so far. -/
structure Race where
  exchange : Exchange
  striking : ℕ
  polling : Race.Polling
  arrived : Option Outcome
  answers : List Outcome

namespace Race

/-- What a party may do next. -/
inductive Move where
  | complete (outcome : Outcome)
  | settle
  | send
  | stop
  | strike
  | signal
  | poll

/-- A race that has just begun. -/
def start : Race := ⟨.start, 0, .idle, none, []⟩

/-! ## Moves -/

/-- The transport completes, if it is at work. -/
def complete (outcome : Outcome) (r : Race) : Race :=
  match r.exchange.task with
  | .sending => { r with exchange := r.exchange.complete outcome, arrived := some outcome }
  | _ => r

/-- Someone cancels as far as the state goes. -/
def strike (r : Race) : Race :=
  match r.exchange.strike with
  | (true, x) => { r with exchange := x, striking := r.striking + 1 }
  | (false, x) => { r with exchange := x }

/-- One of those who have struck tells the task. -/
def signal (r : Race) : Race :=
  match r.striking with
  | 0 => r
  | others + 1 => { r with exchange := r.exchange.signal, striking := others }

/-- A poll ends with an answer. -/
def answer (outcome : Outcome) (x : Exchange) (r : Race) : Race :=
  { r with exchange := x, polling := .idle, answers := r.answers ++ [outcome] }

/-- A poll goes on by one step. -/
def poll (r : Race) : Race :=
  match r.polling with
  | .idle =>
    match r.exchange.look with
    | (some outcome, x) => r.answer outcome x
    | (none, x) =>
      if !x.listening then r.answer (.error polledAgain) x
      else { r with exchange := x, polling := .looked }
  | .looked =>
    match r.exchange.hear with
    | (.open, x) => { r with exchange := x, polling := .idle }
    | (.sent outcome, x) => r.answer outcome x
    | (.dropped, x) => { r with exchange := x, polling := .deserted }
  | .deserted => r.answer r.exchange.conclude r.exchange

/-- The race after a move. -/
def move : Move → Race → Race
  | .complete outcome, r => r.complete outcome
  | .settle, r => { r with exchange := r.exchange.settle }
  | .send, r => { r with exchange := r.exchange.send }
  | .stop, r => { r with exchange := r.exchange.stop }
  | .strike, r => r.strike
  | .signal, r => r.signal
  | .poll, r => r.poll

/-- The race after some moves. -/
def run (moves : List Move) (r : Race) : Race := moves.foldl (fun r m => r.move m) r

/-- A race that some moves lead to. -/
def Reachable (r : Race) : Prop := ∃ moves, start.run moves = r

variable {r : Race} {outcome : Outcome}

/-! ## Runs that nobody interrupts -/

/-- **Delivering** is a run of the task. -/
theorem run_deliver : (r.run [.complete outcome, .settle, .send]).exchange =
    r.exchange.deliver outcome := by
  simp only [run, List.foldl_cons, List.foldl_nil, move, deliver, complete, Exchange.complete]
  cases r.exchange.task <;> rfl

/-- **Cancelling** is a run of one who cancels. -/
theorem run_cancel (h : r.striking = 0) :
    (r.run [.strike, .signal]).exchange = r.exchange.cancel := by
  simp only [run, List.foldl_cons, List.foldl_nil, move, strike, cancel, Exchange.strike]
  by_cases hpending : r.exchange.state = .pending
  · simp only [if_pos hpending, signal]
  · simp only [if_neg hpending, signal, h]

/-- **Polling** is a run of the one who polls. -/
theorem run_poll (h : r.polling = .idle) : ∃ steps, r.run (List.replicate steps .poll) =
    { r with
      exchange := r.exchange.poll.2
      answers := r.answers ++ r.exchange.poll.1.toList } := by
  obtain ⟨⟨state, wanted, task, channel, listening⟩, striking, polling, arrived, answers⟩ := r
  obtain rfl : polling = .idle := h
  cases state with
  | cancelled => exact ⟨1, rfl⟩
  | _ =>
    cases listening with
    | false => exact ⟨1, rfl⟩
    | true =>
      cases channel with
      | «open» => exact ⟨2, congrArg (Race.mk _ _ _ _) (List.append_nil answers).symm⟩
      | sent outcome => exact ⟨2, rfl⟩
      | dropped => exact ⟨3, rfl⟩

/-! ## What every move preserves -/

/-- How state, transport, task and channel go together: as long as the task
has not settled the state it is pending or cancelled; an outcome that has
settled it is the one that goes into the channel; and a channel is left
without one when the exchange is cancelled. -/
inductive Progress : HandleState → Option Outcome → Task → Channel → Prop
  | sending {state : HandleState} (unsettled : state = .pending ∨ state = .cancelled) :
    Progress state none .sending .open
  | completed {state : HandleState} (outcome : Outcome)
      (unsettled : state = .pending ∨ state = .cancelled) :
    Progress state (some outcome) (.completed outcome) .open
  | settled (outcome : Outcome) :
    Progress (.ofOutcome outcome) (some outcome) (.settled outcome) .open
  | sent (outcome : Outcome) :
    Progress (.ofOutcome outcome) (some outcome) .ended (.sent outcome)
  | dropped (arrived : Option Outcome) : Progress .cancelled arrived .ended .dropped

theorem ofOutcome_ne_pending : HandleState.ofOutcome outcome ≠ .pending := by
  cases outcome <;> simp [HandleState.ofOutcome]

section Progress

variable {state : HandleState} {arrived : Option Outcome} {task : Task} {channel : Channel}
variable {outcome : Outcome}

theorem Progress.of_sending (h : Progress state arrived .sending channel) :
    (state = .pending ∨ state = .cancelled) ∧ arrived = none ∧ channel = .open := by
  cases h with
  | sending unsettled => exact ⟨unsettled, rfl, rfl⟩

theorem Progress.of_completed (h : Progress state arrived (.completed outcome) channel) :
    (state = .pending ∨ state = .cancelled) ∧ arrived = some outcome ∧ channel = .open := by
  cases h with
  | completed _ unsettled => exact ⟨unsettled, rfl, rfl⟩

theorem Progress.of_settled (h : Progress state arrived (.settled outcome) channel) :
    state = .ofOutcome outcome ∧ arrived = some outcome := by
  cases h with
  | settled => exact ⟨rfl, rfl⟩

theorem Progress.of_sent (h : Progress state arrived task (.sent outcome)) :
    state = .ofOutcome outcome ∧ arrived = some outcome := by
  cases h with
  | sent => exact ⟨rfl, rfl⟩

theorem Progress.of_dropped (h : Progress state arrived task .dropped) : state = .cancelled := by
  cases h with
  | dropped => rfl

/-- **Striking** a pending state leaves the rest as it is. -/
theorem Progress.struck (h : Progress state arrived task channel) (hpending : state = .pending) :
    Progress .cancelled arrived task channel := by
  cases h with
  | sending => exact .sending (.inr rfl)
  | completed outcome => exact .completed outcome (.inr rfl)
  | settled => exact absurd hpending ofOutcome_ne_pending
  | sent => exact absurd hpending ofOutcome_ne_pending
  | dropped => cases hpending

end Progress

/-- Whether an answer is right: what the transport has brought and the state
shows, or the cancellation. -/
def Right (state : HandleState) (arrived : Option Outcome) (answer : Outcome) : Prop :=
  (arrived = some answer ∧ state = .ofOutcome answer) ∨
    (answer = .error .cancelled ∧ state = .cancelled)

/-- What holds of a race at any time. -/
structure Sound (r : Race) : Prop where
  progress : Progress r.exchange.state r.arrived r.exchange.task r.exchange.channel
  wanted : r.exchange.cancelWanted = true → r.exchange.state = .cancelled
  striking : r.striking ≠ 0 → r.exchange.state = .cancelled
  deserted : r.polling = .deserted → r.exchange.state = .cancelled
  deaf : r.exchange.listening = false → r.exchange.state = .cancelled ∨ r.answers ≠ []
  answered : ∀ a, r.answers.head? = some a → Right r.exchange.state r.arrived a

theorem sound_start : Sound start where
  progress := .sending (.inl rfl)
  wanted := nofun
  striking := fun h => absurd rfl h
  deserted := nofun
  deaf := nofun
  answered := nofun

theorem Right.ne_pending {state : HandleState} {arrived : Option Outcome}
    (h : Right state arrived outcome) : state ≠ .pending := by
  rcases h with ⟨-, rfl⟩ | ⟨-, rfl⟩
  · exact ofOutcome_ne_pending
  · decide

namespace Sound

variable {state : HandleState} {task : Task} {channel : Channel} {arrived : Option Outcome}

/-- **The task moves** within what goes together, and touches the state only
while it is pending. -/
theorem advance (h : Sound r) (progress : Progress state arrived task channel)
    (hstate : r.exchange.state ≠ .pending → state = r.exchange.state)
    (harrived : ∀ a, r.arrived = some a → arrived = some a) :
    Sound { r with exchange := { r.exchange with state, task, channel }, arrived } := by
  have hcancelled : r.exchange.state = .cancelled → state = .cancelled := by
    intro hc
    have hne : r.exchange.state ≠ .pending := by
      rw [hc]
      decide
    exact (hstate hne).trans hc
  refine ⟨progress, fun hw => hcancelled (h.wanted hw), fun hs => hcancelled (h.striking hs),
    fun hd => hcancelled (h.deserted hd), fun hl => (h.deaf hl).imp_left hcancelled,
    fun a ha => ?_⟩
  have hright := h.answered a ha
  have hsame : state = r.exchange.state := hstate hright.ne_pending
  rcases hright with ⟨hbrought, hshown⟩ | ⟨hanswer, hshown⟩
  · exact .inl ⟨harrived a hbrought, hsame.trans hshown⟩
  · exact .inr ⟨hanswer, hsame.trans hshown⟩

theorem complete (h : Sound r) : Sound (r.complete outcome) := by
  have hprogress := h.progress
  cases htask : r.exchange.task with
  | sending =>
    rw [htask] at hprogress
    obtain ⟨hunsettled, harrived, hopen⟩ := hprogress.of_sending
    simp only [Race.complete, Exchange.complete, htask]
    refine h.advance ?_ (fun _ => rfl) fun a ha => ?_
    · rw [hopen]
      exact .completed outcome hunsettled
    · rw [harrived] at ha
      cases ha
  | _ => simpa only [Race.complete, htask] using h

theorem settle (h : Sound r) : Sound (r.move .settle) := by
  have hprogress := h.progress
  cases htask : r.exchange.task with
  | completed outcome =>
    rw [htask] at hprogress
    obtain ⟨hunsettled, harrived, hopen⟩ := hprogress.of_completed
    simp only [move, Exchange.settle, htask]
    -- an exchange that has been cancelled meanwhile drops the outcome
    by_cases hpending : r.exchange.state = .pending
    · rw [if_pos hpending]
      refine h.advance ?_
        (fun hne => absurd hpending hne) fun _ => id
      rw [hopen, harrived]
      exact .settled outcome
    · rw [if_neg hpending]
      have hcancelled : r.exchange.state = .cancelled := hunsettled.resolve_left hpending
      refine h.advance ?_ (fun _ => rfl) fun _ => id
      rw [hcancelled]
      exact .dropped r.arrived
  | _ => simpa only [move, Exchange.settle, htask] using h

theorem send (h : Sound r) : Sound (r.move .send) := by
  have hprogress := h.progress
  cases htask : r.exchange.task with
  | settled outcome =>
    rw [htask] at hprogress
    obtain ⟨hstate, harrived⟩ := hprogress.of_settled
    simp only [move, Exchange.send, htask]
    refine h.advance ?_ (fun _ => rfl) fun _ => id
    rw [hstate, harrived]
    exact .sent outcome
  | _ => simpa only [move, Exchange.send, htask] using h

theorem stop (h : Sound r) : Sound (r.move .stop) := by
  cases htask : r.exchange.task with
  | sending =>
    simp only [move, Exchange.stop, htask]
    by_cases hwanted : r.exchange.cancelWanted = true
    · rw [if_pos hwanted]
      refine h.advance ?_ (fun _ => rfl) fun _ => id
      rw [h.wanted hwanted]
      exact .dropped r.arrived
    · rw [if_neg hwanted]
      exact h
  | _ => simpa only [move, Exchange.stop, htask] using h

/-- **Striking** settles a state that is pending, so no outcome has settled
it and none has been given. -/
theorem strike (h : Sound r) : Sound r.strike := by
  by_cases hpending : r.exchange.state = .pending
  · simp only [Race.strike, Exchange.strike, if_pos hpending]
    have hprogress := h.progress.struck hpending
    have hstruck := h.advance hprogress (fun hne => absurd hpending hne) fun _ => id
    exact ⟨hprogress, fun _ => rfl, fun _ => rfl, fun _ => rfl, fun _ => .inl rfl,
      hstruck.answered⟩
  · simpa only [Race.strike, Exchange.strike, if_neg hpending] using h

theorem signal (h : Sound r) : Sound r.signal := by
  cases hstriking : r.striking with
  | zero => simpa only [Race.signal, hstriking] using h
  | succ others =>
    have hcancelled : r.exchange.state = .cancelled := by
      apply h.striking
      rw [hstriking]
      exact Nat.succ_ne_zero others
    simp only [Race.signal, hstriking]
    exact ⟨h.progress, fun _ => hcancelled, fun _ => hcancelled, h.deserted, h.deaf, h.answered⟩

/-! ## Polls -/

/-- **A poll answers** rightly, or after another one. -/
theorem answer (h : Sound r) (listening : Bool)
    (hright : r.answers = [] → Right r.exchange.state r.arrived outcome) :
    Sound (r.answer outcome { r.exchange with listening }) := by
  refine ⟨h.progress, h.wanted, h.striking, nofun, fun _ => .inr ?_, fun a ha => ?_⟩
  · exact List.append_ne_nil_of_right_ne_nil r.answers (List.cons_ne_nil outcome [])
  · change (r.answers ++ [outcome]).head? = some a at ha
    cases hanswers : r.answers with
    | nil =>
      rw [hanswers] at ha
      obtain rfl : outcome = a := Option.some.inj ha
      exact hright hanswers
    | cons first rest =>
      rw [hanswers] at ha
      exact h.answered a (by rw [hanswers]; exact ha)

theorem poll (h : Sound r) : Sound r.poll := by
  cases hpolling : r.polling with
  | idle =>
    simp only [Race.poll, hpolling, look]
    by_cases hcancelled : r.exchange.isCancelled = true
    · rw [if_pos hcancelled]
      exact h.answer false fun _ => .inr ⟨rfl, isCancelled_iff.1 hcancelled⟩
    · rw [if_neg hcancelled]
      have hne : r.exchange.state ≠ .cancelled := fun hc => hcancelled (isCancelled_iff.2 hc)
      cases hlistening : r.exchange.listening with
      | false =>
        -- nobody listens any more, so an answer has been given before
        have hanswers := (h.deaf hlistening).resolve_left hne
        simp only [hlistening, Bool.not_false, if_true]
        exact h.answer r.exchange.listening fun hnone => absurd hnone hanswers
      | true =>
        simp only [hlistening, Bool.not_true, Bool.false_eq_true, if_false]
        exact ⟨h.progress, h.wanted, h.striking, nofun, h.deaf, h.answered⟩
  | looked =>
    have hprogress := h.progress
    cases hchannel : r.exchange.channel with
    | «open» =>
      simp only [Race.poll, hpolling, hear_of_open hchannel]
      exact ⟨h.progress, h.wanted, h.striking, nofun, h.deaf, h.answered⟩
    | sent outcome =>
      rw [hchannel] at hprogress
      obtain ⟨hstate, harrived⟩ := hprogress.of_sent
      simp only [Race.poll, hpolling, hear_of_sent hchannel]
      exact h.answer false fun _ => .inl ⟨harrived, hstate⟩
    | dropped =>
      rw [hchannel] at hprogress
      have hcancelled := hprogress.of_dropped
      simp only [Race.poll, hpolling, hear_of_dropped hchannel]
      exact ⟨h.progress, h.wanted, h.striking, fun _ => hcancelled, fun _ => .inl hcancelled,
        h.answered⟩
  | deserted =>
    have hcancelled := h.deserted hpolling
    simp only [Race.poll, hpolling]
    refine h.answer r.exchange.listening fun _ => .inr ⟨?_, hcancelled⟩
    exact conclude_of_cancelled hcancelled

/-- **Every move** keeps a race sound. -/
theorem move (h : Sound r) (m : Move) : Sound (r.move m) := by
  cases m with
  | complete outcome => exact h.complete
  | settle => exact h.settle
  | send => exact h.send
  | stop => exact h.stop
  | strike => exact h.strike
  | signal => exact h.signal
  | poll => exact h.poll

theorem run (h : Sound r) (moves : List Move) : Sound (r.run moves) := by
  induction moves generalizing r with
  | nil => exact h
  | cons m moves ih => exact ih (h.move m)

end Sound

theorem sound_of_reachable (h : Reachable r) : Sound r := by
  obtain ⟨moves, rfl⟩ := h
  exact sound_start.run moves

/-! ## What moves leave alone -/

/-- Polling changes nothing of the exchange but whether the handle listens. -/
theorem exchange_poll (r : Race) :
    ∃ listening, r.poll.exchange = { r.exchange with listening } := by
  cases hpolling : r.polling with
  | idle =>
    simp only [Race.poll, hpolling, look]
    by_cases hcancelled : r.exchange.isCancelled = true
    · rw [if_pos hcancelled]
      exact ⟨false, rfl⟩
    · rw [if_neg hcancelled]
      refine ⟨r.exchange.listening, ?_⟩
      dsimp only
      split <;> rfl
  | looked =>
    cases hchannel : r.exchange.channel with
    | «open» =>
      simp only [Race.poll, hpolling, hear_of_open hchannel]
      exact ⟨r.exchange.listening, rfl⟩
    | sent outcome =>
      simp only [Race.poll, hpolling, hear_of_sent hchannel]
      exact ⟨false, rfl⟩
    | dropped =>
      simp only [Race.poll, hpolling, hear_of_dropped hchannel]
      exact ⟨false, rfl⟩
  | deserted =>
    simp only [Race.poll, hpolling]
    exact ⟨r.exchange.listening, rfl⟩

/-- **A settled state stays** as it is. -/
theorem state_move (h : r.exchange.state ≠ .pending) (m : Move) :
    (r.move m).exchange.state = r.exchange.state := by
  cases m with
  | complete outcome =>
    simp only [move, complete, Exchange.complete]
    cases r.exchange.task <;> rfl
  | settle =>
    simp only [move, settle, if_neg h]
    cases r.exchange.task <;> rfl
  | send =>
    simp only [move, send]
    cases r.exchange.task <;> rfl
  | stop =>
    simp only [move, stop]
    cases r.exchange.task with
    | sending => dsimp only; split <;> rfl
    | _ => rfl
  | strike => simp only [move, strike, Exchange.strike, if_neg h]
  | signal =>
    simp only [move, signal]
    cases r.striking <;> rfl
  | poll =>
    obtain ⟨listening, hpoll⟩ := exchange_poll r
    rw [move, hpoll]

theorem state_run (h : r.exchange.state ≠ .pending) (moves : List Move) :
    (r.run moves).exchange.state = r.exchange.state := by
  induction moves generalizing r with
  | nil => rfl
  | cons m moves ih =>
    have hmove := state_move h m
    have hne : (r.move m).exchange.state ≠ .pending := by
      rw [hmove]
      exact h
    exact (ih hne).trans hmove

/-- **An outcome gets into the channel** when the task that it has settled
the state for sends it. -/
theorem sent_move {m : Move} (hafter : (r.move m).exchange.channel = .sent outcome)
    (hbefore : r.exchange.channel ≠ .sent outcome) :
    m = .send ∧ r.exchange.task = .settled outcome := by
  cases m with
  | send =>
    cases htask : r.exchange.task with
    | settled outcome' =>
      simp only [move, send, htask] at hafter
      cases hafter
      exact ⟨rfl, rfl⟩
    | _ =>
      simp only [move, send, htask] at hafter
      exact absurd hafter hbefore
  | complete outcome' =>
    have hsame : (r.complete outcome').exchange.channel = r.exchange.channel := by
      simp only [complete, Exchange.complete]
      cases r.exchange.task <;> rfl
    exact absurd (hsame.symm.trans hafter) hbefore
  | settle =>
    cases htask : r.exchange.task with
    | completed outcome' =>
      simp only [move, settle, htask] at hafter
      split at hafter
      · exact absurd hafter hbefore
      · cases hafter
    | _ =>
      simp only [move, settle, htask] at hafter
      exact absurd hafter hbefore
  | stop =>
    cases htask : r.exchange.task with
    | sending =>
      simp only [move, stop, htask] at hafter
      split at hafter
      · cases hafter
      · exact absurd hafter hbefore
    | _ =>
      simp only [move, stop, htask] at hafter
      exact absurd hafter hbefore
  | strike =>
    have hsame : r.strike.exchange.channel = r.exchange.channel := by
      by_cases hpending : r.exchange.state = .pending
      · simp only [strike, Exchange.strike, if_pos hpending]
      · simp only [strike, Exchange.strike, if_neg hpending]
    exact absurd (hsame.symm.trans hafter) hbefore
  | signal =>
    have hsame : r.signal.exchange.channel = r.exchange.channel := by
      simp only [signal]
      cases r.striking <;> rfl
    exact absurd (hsame.symm.trans hafter) hbefore
  | poll =>
    obtain ⟨listening, hpoll⟩ := exchange_poll r
    rw [move, hpoll] at hafter
    exact absurd hafter hbefore

/-! ## Resolution -/

/-- **Waiting for a cancelled call** gives its cancellation, whatever the
parsers and mappers of the client. -/
theorem wait_of_cancelled {s : Session} {call : Call}
    (h : (s.exchange call.exchange).state = .cancelled) :
    (s.wait call).1 = some (.error .cancelled) := by
  have hlook : (s.exchange call.exchange).look =
      (some (.error .cancelled), { s.exchange call.exchange with listening := false }) := by
    rw [look, if_pos (isCancelled_iff.2 h)]
  simp only [Session.wait, Session.await, Session.poll, Exchange.poll, hlook]
  rfl

/-- **An exchange resolves once.** However the parties of a race interleave:
a state that is not pending is final; an outcome is sent by the task for
which it has settled the state, and it is what the transport brought; the
first answer of a poll is that outcome with its state, or the cancellation;
a poll that finds itself deserted answers with the cancellation, for nothing
else drops the channel; and waiting for a cancelled exchange gives the
cancellation, whatever the parsers and mappers of the client. -/
theorem single_resolution (h : Reachable r) :
    (r.exchange.state ≠ .pending → ∀ moves, (r.run moves).exchange.state = r.exchange.state) ∧
    (∀ m outcome, (r.move m).exchange.channel = .sent outcome →
      r.exchange.channel ≠ .sent outcome → m = .send ∧ r.exchange.task = .settled outcome ∧
        r.arrived = some outcome ∧ r.exchange.state = .ofOutcome outcome) ∧
    (∀ a, r.answers.head? = some a →
      (r.arrived = some a ∧ r.exchange.state = .ofOutcome a) ∨
        (a = .error .cancelled ∧ r.exchange.state = .cancelled)) ∧
    (r.polling = .deserted → r.exchange.conclude = .error .cancelled) ∧
    (r.exchange.state = .cancelled → ∀ (s : Session) (call : Call),
      s.exchange call.exchange = r.exchange → (s.wait call).1 = some (.error .cancelled)) := by
  have hsound := sound_of_reachable h
  refine ⟨fun hne moves => state_run hne moves, fun m outcome hafter hbefore => ?_,
    hsound.answered, fun hdeserted => conclude_of_cancelled (hsound.deserted hdeserted),
    fun hcancelled s call hcall => ?_⟩
  · obtain ⟨hsend, htask⟩ := sent_move hafter hbefore
    have hprogress := hsound.progress
    rw [htask] at hprogress
    obtain ⟨hstate, harrived⟩ := hprogress.of_settled
    exact ⟨hsend, htask, harrived, hstate⟩
  · apply wait_of_cancelled
    rw [hcall]
    exact hcancelled

/-- The moves of a poll that is past its first look when the exchange is
cancelled and the task stops. -/
def interrupted : List Move := [.poll, .strike, .signal, .stop, .poll]

/-- The moves of a task that settles the state just before it would have been
cancelled. -/
def overtaken : List Move :=
  [.complete (.ok ⟨204, [], ⟨[]⟩⟩), .settle, .strike, .signal, .send, .poll, .poll]

theorem single_resolution_interrupted :
    (start.run interrupted).Reachable ∧
      (start.run interrupted).exchange.conclude = .error .cancelled ∧
      (start.run overtaken).Reachable ∧
      ∀ moves, ((start.run overtaken).run moves).exchange.state = .succeeded := by
  have hinterrupted : (start.run interrupted).Reachable := ⟨interrupted, rfl⟩
  have hovertaken : (start.run overtaken).Reachable := ⟨overtaken, rfl⟩
  obtain ⟨-, -, -, hdeserted, -⟩ := single_resolution hinterrupted
  obtain ⟨hfinal, -⟩ := single_resolution hovertaken
  exact ⟨hinterrupted, hdeserted rfl, hovertaken, hfinal nofun⟩

end Race

end RestCall

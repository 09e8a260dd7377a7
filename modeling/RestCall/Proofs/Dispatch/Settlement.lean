import Mathlib.Data.List.Induction
import RestCall.Proofs.Dispatch.Resolution
/-!
# RestCall — answers that settle an exchange

A race in which the task may also be lost: its transport goes down, or there
is nothing left that it could run on. The channel is then dropped, as it is
when the task stops, but nobody settles the state. A race is therefore sound
or it is abandoned, its task lost before anything came of it
(`sound_or_abandoned`).

Once a poll has answered, the exchange is settled: its state agrees with the
answer and stays as it is, whoever cancels. The one exception is the answer
that the task has ended without a result (`settled_iff`). It is given while
the state is pending, for which the task has to be lost while it is, and a
later cancellation takes effect (`unsettled`).
-/

namespace RestCall

open Exchange

namespace Race

/-- What may happen to a race: a party makes its move, or the task is lost. -/
inductive Event where
  | move (m : Move)
  | loss

/-- The task is lost, if the transport is at work. -/
def lose (r : Race) : Race := { r with exchange := r.exchange.lose }

/-- The race after an event. -/
def happen : Event → Race → Race
  | .move m, r => r.move m
  | .loss, r => r.lose

/-- The race after some events. -/
def course (events : List Event) (r : Race) : Race := events.foldl (fun r e => r.happen e) r

variable {r : Race} {outcome a : Outcome} {events : List Event}

/-! ## Settled exchanges -/

/-- Whether a state agrees with an answer: the answer settles it, or both are
the cancellation. -/
def Agrees (state : HandleState) (answer : Outcome) : Prop :=
  state = .ofOutcome answer ∨ (answer = .error .cancelled ∧ state = .cancelled)

/-- **An exchange that an answer has settled.** Its state is terminal and
agrees with the answer, and whatever happens it stays as it is; in particular
nobody cancels the exchange any more. -/
structure Settled (r : Race) (answer : Outcome) : Prop where
  terminal : r.exchange.state.isTerminal = true
  agrees : Agrees r.exchange.state answer
  final : ∀ events, (r.course events).exchange.state = r.exchange.state
  uncancelled : ∀ events, (r.course events).exchange.isCancelled = r.exchange.isCancelled

theorem isTerminal_iff {state : HandleState} : state.isTerminal = true ↔ state ≠ .pending := by
  cases state <;> decide

theorem Right.agrees {state : HandleState} {arrived : Option Outcome}
    (h : Right state arrived outcome) : Agrees state outcome := h.imp_left And.right

/-- Losing the task leaves the state alone. -/
theorem state_lose (r : Race) : r.lose.exchange.state = r.exchange.state := by
  simp only [lose, Exchange.lose]
  cases r.exchange.task <;> rfl

theorem state_happen (h : r.exchange.state ≠ .pending) (e : Event) :
    (r.happen e).exchange.state = r.exchange.state := by
  cases e with
  | move m => exact state_move h m
  | loss => exact state_lose r

/-- **A settled state stays** as it is, whatever happens. -/
theorem state_course (h : r.exchange.state ≠ .pending) (events : List Event) :
    (r.course events).exchange.state = r.exchange.state := by
  induction events generalizing r with
  | nil => rfl
  | cons e events ih =>
    have hstate := state_happen h e
    have hne : (r.happen e).exchange.state ≠ .pending := by
      rw [hstate]
      exact h
    exact (ih hne).trans hstate

theorem settled_of_right (h : Right r.exchange.state r.arrived a) : Settled r a where
  terminal := isTerminal_iff.2 h.ne_pending
  agrees := h.agrees
  final := state_course h.ne_pending
  uncancelled events := by rw [isCancelled, state_course h.ne_pending, isCancelled]

/-! ## Races whose task is lost -/

/-- A race whose task has been lost before anything came of it. Polls answer
that there is no outcome, unless somebody has cancelled. -/
structure Abandoned (r : Race) : Prop where
  task : r.exchange.task = .ended
  channel : r.exchange.channel = .dropped
  arrived : r.arrived = none
  unsettled : r.exchange.state = .pending ∨ r.exchange.state = .cancelled
  deaf : r.exchange.listening = false →
    r.exchange.state = .cancelled ∨ r.answers ≠ [] ∨ r.polling = .deserted
  answered : ∀ a, r.answers.head? = some a →
    a = .error noOutcome ∨ (a = .error .cancelled ∧ r.exchange.state = .cancelled)

/-- **The task is lost.** A race whose state is pending is then abandoned. One
that has been cancelled stays sound, the channel being dropped as it is by a
task that stops; and a task that is past sending is not lost. -/
theorem Sound.lose (h : Sound r) : Sound r.lose ∨
    (Abandoned r.lose ∧ r.exchange.task = .sending ∧ r.exchange.state = .pending) := by
  cases htask : r.exchange.task with
  | sending =>
    have hprogress := h.progress
    rw [htask] at hprogress
    obtain ⟨hunsettled, harrived, -⟩ := hprogress.of_sending
    simp only [Race.lose, Exchange.lose, htask]
    rcases hunsettled with hpending | hcancelled
    · refine .inr ⟨⟨rfl, rfl, harrived, .inl hpending, fun hl => (h.deaf hl).imp_right .inl,
        fun a ha => ?_⟩, trivial, hpending⟩
      -- an answer that has been given would have settled the state
      exact absurd hpending (h.answered a ha).ne_pending
    · refine .inl (h.advance ?_ (fun _ => rfl) fun _ => id)
      rw [hcancelled]
      exact .dropped r.arrived
  | _ => exact .inl (by simpa only [Race.lose, Exchange.lose, htask] using h)

namespace Abandoned

/-- **A poll answers** that there is no outcome, or that the exchange is
cancelled, or after another poll. -/
theorem answer (h : Abandoned r) (listening : Bool) (hright : r.answers = [] →
      a = .error noOutcome ∨ (a = .error .cancelled ∧ r.exchange.state = .cancelled)) :
    Abandoned (r.answer a { r.exchange with listening }) := by
  refine ⟨h.task, h.channel, h.arrived, h.unsettled, fun _ => .inr (.inl ?_), fun a' ha => ?_⟩
  · exact List.append_ne_nil_of_right_ne_nil r.answers (List.cons_ne_nil a [])
  · change (r.answers ++ [a]).head? = some a' at ha
    cases hanswers : r.answers with
    | nil =>
      rw [hanswers] at ha
      obtain rfl : a = a' := Option.some.inj ha
      exact hright hanswers
    | cons first rest =>
      rw [hanswers] at ha
      exact h.answered a' (by rw [hanswers]; exact ha)

theorem poll (h : Abandoned r) : Abandoned r.poll := by
  cases hpolling : r.polling with
  | idle =>
    simp only [Race.poll, hpolling, look]
    by_cases hcancelled : r.exchange.isCancelled = true
    · rw [if_pos hcancelled]
      exact h.answer false fun _ => .inr ⟨rfl, isCancelled_iff.1 hcancelled⟩
    · rw [if_neg hcancelled]
      cases hlistening : r.exchange.listening with
      | false =>
        simp only [hlistening, Bool.not_false, if_true]
        refine h.answer r.exchange.listening fun hnone => absurd hnone ?_
        -- nobody listens, nobody has cancelled and no poll is under way
        have hne : r.exchange.state ≠ .cancelled := fun hc => hcancelled (isCancelled_iff.2 hc)
        refine ((h.deaf hlistening).resolve_left hne).resolve_right ?_
        rw [hpolling]
        intro hdeserted
        cases hdeserted
      | true =>
        simp only [hlistening, Bool.not_true, Bool.false_eq_true, if_false]
        refine ⟨h.task, h.channel, h.arrived, h.unsettled, fun hdeaf => ?_, h.answered⟩
        cases hlistening.symm.trans hdeaf
  | looked =>
    simp only [Race.poll, hpolling, hear_of_dropped h.channel]
    exact ⟨h.task, h.channel, h.arrived, h.unsettled, fun _ => .inr (.inr rfl), h.answered⟩
  | deserted =>
    simp only [Race.poll, hpolling]
    refine h.answer r.exchange.listening fun _ => ?_
    by_cases hcancelled : r.exchange.isCancelled = true
    · exact .inr ⟨by rw [conclude, if_pos hcancelled], isCancelled_iff.1 hcancelled⟩
    · exact .inl (by rw [conclude, if_neg hcancelled])

/-- **Striking** an abandoned race settles its state, but changes no answer. -/
theorem strike (h : Abandoned r) : Abandoned r.strike := by
  by_cases hpending : r.exchange.state = .pending
  · simp only [Race.strike, Exchange.strike, if_pos hpending]
    exact ⟨h.task, h.channel, h.arrived, .inr rfl, fun _ => .inl rfl,
      fun a ha => (h.answered a ha).imp_right fun hc => ⟨hc.1, rfl⟩⟩
  · simpa only [Race.strike, Exchange.strike, if_neg hpending] using h

theorem signal (h : Abandoned r) : Abandoned r.signal := by
  cases hstriking : r.striking with
  | zero => simpa only [Race.signal, hstriking] using h
  | succ others =>
    simp only [Race.signal, hstriking]
    exact ⟨h.task, h.channel, h.arrived, h.unsettled, h.deaf, h.answered⟩

/-- **Nothing brings an abandoned race back.** -/
theorem happen (h : Abandoned r) (e : Event) : Abandoned (r.happen e) := by
  have htask := h.task
  cases e with
  | loss => simpa only [Race.happen, Race.lose, Exchange.lose, htask] using h
  | move m =>
    cases m with
    | complete outcome => simpa only [Race.happen, move, complete, htask] using h
    | settle => simpa only [Race.happen, move, settle, htask] using h
    | send => simpa only [Race.happen, move, send, htask] using h
    | stop => simpa only [Race.happen, move, stop, htask] using h
    | strike => exact h.strike
    | signal => exact h.signal
    | poll => exact h.poll

end Abandoned

/-! ## Courses -/

theorem course_append_singleton (events : List Event) (e : Event) :
    r.course (events ++ [e]) = (r.course events).happen e := List.foldl_append

/-- **A race is sound or abandoned**, whatever happens; and one that is not
sound has lost its task while the transport was at work and the state was
pending. -/
theorem sound_or_abandoned (events : List Event) :
    Sound (start.course events) ∨ (Abandoned (start.course events) ∧
      ∃ before after, events = before ++ .loss :: after ∧
        (start.course before).exchange.task = .sending ∧
        (start.course before).exchange.state = .pending) := by
  -- event by event: only a loss can leave the sound races, and no event comes back to them
  induction events using List.reverseRecOn with
  | nil => exact .inl sound_start
  | append_singleton events e ih =>
    rw [course_append_singleton]
    rcases ih with hsound | ⟨habandoned, before, after, rfl, htask, hpending⟩
    · cases e with
      | move m => exact .inl (hsound.move m)
      | loss =>
        refine hsound.lose.imp_right fun ⟨habandoned, htask, hpending⟩ => ?_
        exact ⟨habandoned, events, [], rfl, htask, hpending⟩
    · exact .inr ⟨habandoned.happen e, before, after ++ [e], by simp, htask, hpending⟩

/-! ## Answers -/

/-- **An abandoned race disagrees with the answer** that there is no outcome:
its state never becomes that of a failure. -/
theorem Abandoned.not_agrees (h : Abandoned r) : ¬ Agrees r.exchange.state (.error noOutcome) := by
  have hnot : HandleState.ofOutcome (.error noOutcome) = .failed := rfl
  rintro (hfailed | ⟨hanswer, -⟩)
  · rw [hnot] at hfailed
    rcases h.unsettled with hpending | hcancelled
    · cases hpending.symm.trans hfailed
    · cases hcancelled.symm.trans hfailed
  · cases hanswer

/-- **An answer settles the exchange** unless it is that the task has ended
without a result, which the transport did not bring. Whatever has happened
and will happen, in any order: after every other first answer the state is
terminal, agrees with the answer and is not changed by a cancellation. That
one answer is given only if the task has been lost while the transport was
at work and the state was pending. -/
theorem settled_iff (h : (start.course events).answers.head? = some a) :
    (Settled (start.course events) a ↔
      ¬ (a = .error noOutcome ∧ (start.course events).arrived = none)) ∧
    (a = .error noOutcome → (start.course events).arrived = none →
      ∃ before after, events = before ++ .loss :: after ∧
        (start.course before).exchange.task = .sending ∧
        (start.course before).exchange.state = .pending) := by
  rcases sound_or_abandoned events with hsound | ⟨habandoned, hlost⟩
  · have hright := hsound.answered a h
    -- in a sound race this answer can only have come from the transport
    have hnot : ¬ (a = .error noOutcome ∧ (start.course events).arrived = none) := by
      rintro ⟨rfl, hnone⟩
      rcases hright with ⟨hbrought, -⟩ | ⟨hanswer, -⟩
      · rw [hnone] at hbrought
        cases hbrought
      · cases hanswer
    exact ⟨iff_of_true (settled_of_right hright) hnot,
      fun hanswer hnone => absurd ⟨hanswer, hnone⟩ hnot⟩
  · refine ⟨⟨fun hsettled => ?_, fun hnot => ?_⟩, fun _ _ => hlost⟩
    · rintro ⟨rfl, -⟩
      exact habandoned.not_agrees hsettled.agrees
    · rcases habandoned.answered a h with hanswer | hcancelled
      · exact absurd ⟨hanswer, habandoned.arrived⟩ hnot
      · exact settled_of_right (.inr hcancelled)

/-- The events of a task that is lost after a cancellation has been struck, in
the middle of a poll. -/
def mourned : List Event := [.move .poll, .move .strike, .loss, .move .poll, .move .poll]

/-- The events of a task that settles the state just before it would have been
cancelled and lost. -/
def escaped : List Event :=
  [.move (.complete (.error polledAgain)), .move .settle, .move .strike, .loss, .move .send,
    .move .poll, .move .poll]

theorem settled_iff_escaped :
    (start.course mourned).answers.head? = some (.error .cancelled) ∧
      Settled (start.course mourned) (.error .cancelled) ∧
      (start.course escaped).answers.head? = some (.error polledAgain) ∧
      ∀ events, ((start.course escaped).course events).exchange.state = .failed := by
  have hmourned : (start.course mourned).answers.head? = some (.error .cancelled) := rfl
  have hescaped : (start.course escaped).answers.head? = some (.error polledAgain) := rfl
  have hsettled := (settled_iff hmourned).1.2 fun h => by cases h.1
  have hfailed := (settled_iff hescaped).1.2 fun h => by cases h.2
  exact ⟨hmourned, hsettled, hescaped, hfailed.final⟩

/-- The events of a task that is lost while the transport is at work, and of a
poll. -/
def bereft : List Event := [.loss, .move .poll, .move .poll, .move .poll]

/-- **An answer that settles nothing.** The task is lost, the poll answers
that it has ended without a result, and the state is still pending. A
cancellation that comes after the answer takes effect. -/
theorem unsettled :
    (start.course bereft).answers = [.error noOutcome] ∧
      (start.course bereft).exchange.state = .pending ∧
      (start.course bereft).exchange.isCancelled = false ∧
      ((start.course bereft).course [.move .strike, .move .signal]).exchange.state = .cancelled ∧
      ((start.course bereft).course [.move .strike, .move .signal]).exchange.isCancelled = true :=
  ⟨rfl, rfl, rfl, rfl, rfl⟩

end Race

end RestCall

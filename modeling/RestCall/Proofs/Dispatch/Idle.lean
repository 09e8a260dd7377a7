import Mathlib.Data.Nat.Notation
import RestCall.Dispatch.Network
/-!
# RestCall — networks in which nothing moves

A network is idle when each request in flight is done or waits for a
permit that nobody has given. Rounds leave an idle network alone, so when
one more request is handed over it alone moves: the task notes it, takes
the next cue and, when the cue answers at once, delivers the outcome. The
network is idle again afterwards.
-/

namespace RestCall

/-- The outcome of a script that is used up. -/
def Cue.emptySuccess : Outcome := .ok ⟨200, [], .empty⟩

/-- A cue that answers at once. -/
def Cue.answering (outcome : Outcome) : Cue := ⟨.outcome outcome, false⟩

theorem Exchange.deliver_start (outcome : Outcome) : start.deliver outcome =
    ⟨.ofOutcome outcome, false, .ended, .sent outcome, true⟩ := by
  cases outcome <;> rfl

/-- A request in flight that cannot go on by itself. -/
def Flight.Idle (f : Flight) : Prop :=
  match f.stage with
  | .done => True
  | .waiting _ => f.exchange.cancelWanted = false
  | _ => False

namespace Network

variable {n : Network} {request : Request} {outcome : Outcome}

/-- A network in which no task can go on. -/
def Idle (n : Network) : Prop := ∀ f ∈ n.flights, f.Idle

/-- A network after one more request has been answered, with the script that
is left; `listening` tells whether the outcome is still to be taken. -/
def answered (request : Request) (outcome : Outcome) (listening : Bool) (script : List Cue)
    (n : Network) : Network :=
  { n with
    script
    sent := n.sent ++ [request]
    flights := n.flights ++
      [⟨request, ⟨.ofOutcome outcome, false, .ended, .sent outcome, listening⟩, .done⟩] }

theorem idle_start (script : List Cue) : (start script).Idle := fun _ hf => nomatch hf

theorem idle_answered {listening : Bool} {script : List Cue} (h : n.Idle) :
    (n.answered request outcome listening script).Idle := by
  intro f hf
  rcases List.mem_append.1 hf with hf | hf
  · exact h f hf
  · rw [List.mem_singleton.1 hf]
    trivial

/-! ## Tasks that cannot go on -/

/-- **Only a flight that is not idle moves.** -/
theorem advance_of_idle {id : ℕ} (h : ∀ f, n.flights[id]? = some f → f.Idle) :
    n.advance id = n := by
  unfold advance
  cases hf : n.flights[id]? with
  | none => rfl
  | some f =>
    have hidle := h f hf
    unfold Flight.Idle at hidle
    cases hs : f.stage <;> simp_all

theorem foldl_advance_of_idle {ids : List ℕ}
    (h : ∀ id ∈ ids, ∀ f, n.flights[id]? = some f → f.Idle) :
    ids.foldl (fun n id => n.advance id) n = n := by
  induction ids with
  | nil => rfl
  | cons id rest ih =>
    rw [List.foldl_cons, advance_of_idle (h id (by simp))]
    exact ih fun id' hid' => h id' (by simp [hid'])

theorem rounds_of_idle (h : n.Idle) : ∀ count, n.rounds count = n
  | 0 => rfl
  | count + 1 => by
    have hround : n.round = n :=
      foldl_advance_of_idle fun _ _ f hf => h f (List.mem_of_getElem? hf)
    rw [rounds, hround, rounds_of_idle h count]

/-! ## One more request -/

theorem modify_last (f : Flight) (change : Flight → Flight) (flights : List Flight) :
    (flights ++ [f]).modify flights.length change = flights ++ [change f] :=
  List.modifyTailIdx_add (List.modifyHead change) 0 flights [f]

theorem active_launch : (n.launch request).2.active = n.active ++ [n.flights.length] := by
  simp [active, launch, List.zipIdx_append, Flight.isActive]

theorem nextCue_of_script {script : List Outcome} (hs : n.script = script.map Cue.answering) :
    n.nextCue = (Cue.answering (script.headD Cue.emptySuccess),
      { n with script := script.tail.map Cue.answering }) := by
  obtain ⟨cues, sent, permits, flights, queue⟩ := n
  obtain rfl : cues = script.map Cue.answering := hs
  cases script <;> rfl

/-- A task that begins notes its request and is done with the next cue. -/
theorem begin_of_script {script : List Outcome} (hs : n.script = script.map Cue.answering)
    (id : ℕ) (f : Flight) :
    n.begin id f =
      { n with
        script := script.tail.map Cue.answering
        sent := n.sent ++ [f.request] }.update id
        (Flight.finish (Cue.answering (script.headD Cue.emptySuccess))) := by
  have hcue := nextCue_of_script (n := { n with sent := n.sent ++ [f.request] }) hs
  rw [begin, hcue]
  rfl

theorem advance_launch {script : List Outcome} (hs : n.script = script.map Cue.answering) :
    (n.launch request).2.advance n.flights.length =
      n.answered request (script.headD Cue.emptySuccess) true (script.tail.map Cue.answering) := by
  have hlast : (n.launch request).2.flights[n.flights.length]? = some ⟨request, .start, .fresh⟩ :=
    List.getElem?_concat_length
  have hbegin := begin_of_script (n := (n.launch request).2) hs n.flights.length
    ⟨request, .start, .fresh⟩
  rw [advance, hlast]
  refine hbegin.trans ?_
  rw [update, launch, modify_last, Flight.finish, Cue.answering, Flight.react,
    Exchange.deliver_start]
  rfl

/-- **A request handed to an idle network is answered**, and nothing else
happens. -/
theorem run_launch {script : List Outcome} (h : n.Idle)
    (hs : n.script = script.map Cue.answering) :
    (n.launch request).2.run =
      n.answered request (script.headD Cue.emptySuccess) true (script.tail.map Cue.answering) := by
  -- a round comes to the older requests first, and they do not move
  have hothers : n.active.foldl (fun n id => n.advance id) (n.launch request).2 =
      (n.launch request).2 := by
    refine foldl_advance_of_idle fun id hid f hf => ?_
    simp only [active, List.mem_map, List.mem_filter, Prod.exists] at hid
    obtain ⟨g, i, ⟨hi, -⟩, rfl⟩ := hid
    rw [launch, List.getElem?_append_left (List.mem_zipIdx' hi).1] at hf
    exact h f (List.mem_of_getElem? hf)
  have hround : (n.launch request).2.round =
      n.answered request (script.headD Cue.emptySuccess) true (script.tail.map Cue.answering) := by
    rw [round, active_launch, List.foldl_append, hothers]
    exact advance_launch hs
  have hcount : 2 * (n.launch request).2.active.length = 2 * n.active.length + 1 + 1 := by
    rw [active_launch, List.length_append]
    rfl
  rw [run, hcount, rounds, hround, rounds_of_idle (idle_answered h)]

end Network

end RestCall

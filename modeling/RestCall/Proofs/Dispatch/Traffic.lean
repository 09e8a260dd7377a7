import RestCall.Proofs.Dispatch.Idle
/-!
# RestCall — what goes through a network

A network makes up no requests: those in flight and those that it has noted
have been handed over to it. Nor does it make up outcomes: what an exchange
holds comes from a cue of the script, or is one of the few outcomes that
networks have of themselves. Both are one invariant, of a class of requests
and a class of outcomes, and each thing that can happen to a network keeps
it. What has been noted and handed over stays what it was while a network
goes on (`Follows`).
-/

namespace RestCall

variable {P : Request → Prop} {Q : Outcome → Prop} {outcome : Outcome}

/-- Whether the outcomes that networks have of themselves belong to a class. -/
structure Outcome.Closed (Q : Outcome → Prop) : Prop where
  emptySuccess : Q Cue.emptySuccess
  cancelled : Q (.error .cancelled)
  polledAgain : Q (.error Exchange.polledAgain)
  noOutcome : Q (.error Exchange.noOutcome)
  noRuntime : ∀ operation, Q (.error (Exchange.noRuntime operation))

/-! ## Exchanges -/

/-- Whether the outcome of a task belongs to a class. -/
def Exchange.Task.Holds (Q : Outcome → Prop) : Exchange.Task → Prop
  | .completed outcome => Q outcome
  | .settled outcome => Q outcome
  | _ => True

/-- Whether the outcome in a channel belongs to a class. -/
def Exchange.Channel.Holds (Q : Outcome → Prop) : Exchange.Channel → Prop
  | .sent outcome => Q outcome
  | _ => True

/-- Whether the outcomes that an exchange holds belong to a class. -/
structure Exchange.Holds (Q : Outcome → Prop) (x : Exchange) : Prop where
  task : x.task.Holds Q
  channel : x.channel.Holds Q

namespace Exchange

variable {x : Exchange}

theorem holds_start : start.Holds Q := ⟨trivial, trivial⟩

theorem holds_complete (h : x.Holds Q) (ho : Q outcome) : (x.complete outcome).Holds Q := by
  rw [complete]
  split
  · exact ⟨ho, h.channel⟩
  · exact h

theorem holds_settle (h : x.Holds Q) : x.settle.Holds Q := by
  rw [settle]
  split
  · rename_i outcome htask
    have ho := h.task
    rw [htask] at ho
    split
    · exact ⟨ho, h.channel⟩
    · exact ⟨trivial, trivial⟩
  · exact h

theorem holds_send (h : x.Holds Q) : x.send.Holds Q := by
  rw [send]
  split
  · rename_i outcome htask
    have ho := h.task
    rw [htask] at ho
    exact ⟨trivial, ho⟩
  · exact h

theorem holds_deliver (h : x.Holds Q) (ho : Q outcome) : (x.deliver outcome).Holds Q :=
  holds_send (holds_settle (holds_complete h ho))

theorem holds_stranded (hQ : Outcome.Closed Q) (operation : String) :
    (stranded operation).Holds Q :=
  holds_deliver holds_start (hQ.noRuntime operation)

theorem holds_stop (h : x.Holds Q) : x.stop.Holds Q := by
  rw [stop]
  split
  · split
    · exact ⟨trivial, trivial⟩
    · exact h
  · exact h

theorem holds_lose (h : x.Holds Q) : x.lose.Holds Q := by
  rw [lose]
  split
  · exact ⟨trivial, trivial⟩
  · exact h

theorem holds_cancel (h : x.Holds Q) : x.cancel.Holds Q := by
  rw [cancel, strike]
  split
  · rename_i hstrike
    split at hstrike
    · cases hstrike
      exact ⟨h.task, h.channel⟩
    · cases hstrike
  · rename_i hstrike
    split at hstrike
    · cases hstrike
    · cases hstrike
      exact h

/-- **A poll answers** with what the exchange holds, or of itself. -/
theorem holds_poll (hQ : Outcome.Closed Q) (h : x.Holds Q) :
    (∀ outcome, x.poll.1 = some outcome → Q outcome) ∧ x.poll.2.Holds Q := by
  rw [poll, look]
  split
  · rename_i hlook
    split at hlook
    · cases hlook
      exact ⟨fun _ ho => Option.some.inj ho ▸ hQ.cancelled, h.task, h.channel⟩
    · cases hlook
  · rename_i hlook
    split at hlook
    · cases hlook
    cases hlook
    split
    · exact ⟨fun _ ho => Option.some.inj ho ▸ hQ.polledAgain, h⟩
    · have hsent := h.channel
      cases hchannel : x.channel with
      | «open» =>
        simp only [hear, hchannel]
        exact ⟨nofun, h⟩
      | sent outcome =>
        rw [hchannel] at hsent
        simp only [hear, hchannel]
        exact ⟨fun _ ho => Option.some.inj ho ▸ hsent, h.task, hsent⟩
      | dropped =>
        simp only [hear, hchannel]
        refine ⟨fun _ ho => Option.some.inj ho ▸ ?_, h.task, trivial⟩
        rw [conclude]
        split
        · exact hQ.cancelled
        · exact hQ.noOutcome

end Exchange

/-! ## Flights -/

/-- Whether the outcome that a transport reacts with belongs to a class. -/
def Reaction.Within (Q : Outcome → Prop) : Reaction → Prop
  | .outcome outcome => Q outcome
  | .loss => True

theorem Reaction.within_true (reaction : Reaction) : reaction.Within fun _ => True := by
  cases reaction <;> trivial

/-- Whether the cue that a flight is waiting with belongs to a class. -/
def Flight.Stage.Within (Q : Outcome → Prop) : Flight.Stage → Prop
  | .waiting cue => cue.reaction.Within Q
  | .permitted cue => cue.reaction.Within Q
  | _ => True

/-- Whether the request and the outcomes of a flight belong to their classes. -/
structure Flight.Within (P : Request → Prop) (Q : Outcome → Prop) (f : Flight) : Prop where
  request : P f.request
  exchange : f.exchange.Holds Q
  stage : f.stage.Within Q

namespace Flight

variable {f : Flight}

theorem within_finish {cue : Cue} (h : f.Within P Q) (hcue : cue.reaction.Within Q) :
    (f.finish cue).Within P Q := by
  refine ⟨h.request, ?_, trivial⟩
  rw [finish]
  cases hreaction : cue.reaction with
  | outcome outcome =>
    rw [hreaction] at hcue
    exact Exchange.holds_deliver h.exchange hcue
  | loss => exact Exchange.holds_lose h.exchange

theorem within_halt (h : f.Within P Q) : f.halt.Within P Q :=
  ⟨h.request, Exchange.holds_stop h.exchange, trivial⟩

end Flight

/-! ## Networks -/

/-- Whether the requests and the outcomes of a network belong to their
classes. -/
structure Network.Within (P : Request → Prop) (Q : Outcome → Prop) (n : Network) : Prop where
  script : ∀ cue ∈ n.script, cue.reaction.Within Q
  sent : ∀ r ∈ n.sent, P r
  flights : ∀ f ∈ n.flights, f.Within P Q

namespace Network

variable {n : Network} {request : Request} {id : ℕ} {change : Flight → Flight}

theorem Within.mono {P' : Request → Prop} (h : n.Within P Q) (hP : ∀ r, P r → P' r) :
    n.Within P' Q :=
  ⟨h.script, fun r hr => hP r (h.sent r hr),
    fun f hf => ⟨hP _ (h.flights f hf).request, (h.flights f hf).exchange,
      (h.flights f hf).stage⟩⟩

theorem within_start {script : List Cue} (h : ∀ cue ∈ script, cue.reaction.Within Q) :
    (start script).Within P Q :=
  ⟨h, fun _ hr => absurd hr List.not_mem_nil, fun _ hf => absurd hf List.not_mem_nil⟩

theorem within_extend {cues : List Cue} (h : n.Within P Q)
    (hcues : ∀ cue ∈ cues, cue.reaction.Within Q) : (n.extend cues).Within P Q :=
  ⟨List.forall_mem_append.2 ⟨h.script, hcues⟩, h.sent, h.flights⟩

theorem within_launch (h : n.Within P Q) (hrequest : P request) :
    (n.launch request).2.Within P Q :=
  ⟨h.script, h.sent, List.forall_mem_append.2
    ⟨h.flights, List.forall_mem_singleton.2 ⟨hrequest, Exchange.holds_start, trivial⟩⟩⟩

theorem within_strand (hQ : Outcome.Closed Q) (h : n.Within P Q) (hrequest : P request) :
    (n.strand request).2.Within P Q := by
  refine ⟨h.script, h.sent, fun f hf => ?_⟩
  rcases List.mem_append.1 hf with hf | hf
  · exact h.flights f hf
  · obtain rfl := List.mem_singleton.1 hf
    exact ⟨hrequest, Exchange.holds_stranded hQ _, trivial⟩

/-- A flight of a network in which one was changed. -/
theorem mem_modify {flights : List Flight} {f : Flight} (h : f ∈ flights.modify id change) :
    f ∈ flights ∨ ∃ g ∈ flights, f = change g := by
  obtain ⟨j, hj⟩ := List.mem_iff_getElem?.1 h
  rw [List.getElem?_modify] at hj
  obtain ⟨g, hg, rfl⟩ := Option.map_eq_some_iff.1 hj
  split
  · exact .inr ⟨g, List.mem_of_getElem? hg, rfl⟩
  · exact .inl (List.mem_of_getElem? hg)

theorem within_update (h : n.Within P Q) (hchange : ∀ f, f.Within P Q → (change f).Within P Q) :
    (n.update id change).Within P Q := by
  refine ⟨h.script, h.sent, fun f hf => ?_⟩
  rcases mem_modify hf with hf | ⟨g, hg, rfl⟩
  · exact h.flights f hf
  · exact hchange g (h.flights g hg)

theorem within_onExchange {change : Exchange → Exchange} (h : n.Within P Q)
    (hchange : ∀ x, x.Holds Q → (change x).Holds Q) : (n.onExchange id change).Within P Q :=
  within_update h fun f hf => ⟨hf.request, hchange f.exchange hf.exchange, hf.stage⟩

/-- The outcomes of an exchange that is looked up. -/
theorem holds_exchange? {x : Exchange} (h : n.Within P Q) (hx : n.exchange? id = some x) :
    x.Holds Q := by
  obtain ⟨f, hf, rfl⟩ := Option.map_eq_some_iff.1 hx
  exact (h.flights f (List.mem_of_getElem? hf)).exchange

/-! ## Tasks -/

theorem within_permit (h : n.Within P Q) : n.permit.Within P Q := by
  rw [permit]
  split
  · exact ⟨h.script, h.sent, h.flights⟩
  · refine within_update ⟨h.script, h.sent, h.flights⟩ fun f hf => ?_
    split
    · rename_i cue hstage
      have hcue := hf.stage
      rw [hstage] at hcue
      exact ⟨hf.request, hf.exchange, hcue⟩
    · exact hf

theorem within_release {count : ℕ} (h : n.Within P Q) : (n.release count).Within P Q := by
  induction count generalizing n with
  | zero => exact h
  | succ count ih => exact ih (within_permit h)

theorem within_nextCue (hQ : Outcome.Closed Q) (h : n.Within P Q) :
    n.nextCue.1.reaction.Within Q ∧ n.nextCue.2.Within P Q := by
  rw [nextCue]
  split
  · exact ⟨hQ.emptySuccess, h⟩
  · rename_i cue rest hscript
    have hcues := h.script
    rw [hscript, List.forall_mem_cons] at hcues
    exact ⟨hcues.1, hcues.2, h.sent, h.flights⟩

theorem within_begin {f : Flight} (hQ : Outcome.Closed Q) (h : n.Within P Q)
    (hf : f.Within P Q) : (n.begin id f).Within P Q := by
  have hnoted : { n with sent := n.sent ++ [f.request] }.Within P Q :=
    ⟨h.script, List.forall_mem_append.2 ⟨h.sent, List.forall_mem_singleton.2 hf.request⟩,
      h.flights⟩
  obtain ⟨hcue, hnext⟩ := within_nextCue hQ hnoted
  rw [begin]
  generalize { n with sent := n.sent ++ [f.request] }.nextCue = next at hcue hnext ⊢
  obtain ⟨cue, n'⟩ := next
  dsimp only at hcue hnext ⊢
  split
  · exact within_update hnext fun f hf => Flight.within_finish hf hcue
  · split
    · exact within_update ⟨hnext.script, hnext.sent, hnext.flights⟩
        fun f hf => Flight.within_finish hf hcue
    · exact within_update ⟨hnext.script, hnext.sent, hnext.flights⟩
        fun f hf => ⟨hf.request, hf.exchange, hcue⟩

theorem within_advance (hQ : Outcome.Closed Q) (h : n.Within P Q) : (n.advance id).Within P Q := by
  rw [advance]
  split
  · exact h
  · rename_i f hflight
    have hf := h.flights f (List.mem_of_getElem? hflight)
    split
    · exact h
    · split
      · exact within_update h fun f hf => Flight.within_halt hf
      · exact within_begin hQ h hf
    · split
      · exact within_update ⟨h.script, h.sent, h.flights⟩ fun f hf => Flight.within_halt hf
      · exact h
    · rename_i cue hstage
      have hcue := hf.stage
      rw [hstage] at hcue
      split
      · exact within_permit (within_update h fun f hf => Flight.within_halt hf)
      · exact within_update h fun f hf => Flight.within_finish hf hcue

theorem within_round (hQ : Outcome.Closed Q) (h : n.Within P Q) : n.round.Within P Q := by
  rw [round]
  generalize n.active = ids
  induction ids generalizing n with
  | nil => exact h
  | cons id ids ih => exact ih (within_advance hQ h)

theorem within_rounds {count : ℕ} (hQ : Outcome.Closed Q) (h : n.Within P Q) :
    (n.rounds count).Within P Q := by
  induction count generalizing n with
  | zero => exact h
  | succ count ih => exact ih (within_round hQ h)

/-- **Tasks that go on** bring no requests and no outcomes of their own. -/
theorem within_run (hQ : Outcome.Closed Q) (h : n.Within P Q) : n.run.Within P Q :=
  within_rounds hQ h

/-! ## What stays -/

/-- Whether one network has gone on from another: what was noted and what was
handed over stays what it was. -/
structure Follows (n n' : Network) : Prop where
  sent : n.sent <+: n'.sent
  requests : n.flights.map Flight.request <+: n'.flights.map Flight.request

theorem Follows.refl (n : Network) : n.Follows n := ⟨List.prefix_rfl, List.prefix_rfl⟩

theorem Follows.trans {n n' n'' : Network} (h : n.Follows n') (h' : n'.Follows n'') :
    n.Follows n'' :=
  ⟨h.sent.trans h'.sent, h.requests.trans h'.requests⟩

theorem follows_launch : n.Follows (n.launch request).2 :=
  ⟨List.prefix_rfl, by
    rw [launch, List.map_append]
    exact List.prefix_append ..⟩

theorem follows_strand : n.Follows (n.strand request).2 :=
  ⟨List.prefix_rfl, by
    rw [strand, List.map_append]
    exact List.prefix_append ..⟩

theorem map_request_modify {flights : List Flight}
    (hchange : ∀ f, (change f).request = f.request) :
    (flights.modify id change).map Flight.request = flights.map Flight.request := by
  refine List.ext_getElem? fun j => ?_
  simp only [List.getElem?_map, List.getElem?_modify]
  cases flights[j]? with
  | none => rfl
  | some f =>
    by_cases hj : id = j
    · simp [hj, hchange]
    · simp [hj]

theorem follows_update {n' : Network} (h : n.Follows n')
    (hchange : ∀ f, (change f).request = f.request) : n.Follows (n'.update id change) :=
  ⟨h.sent, by
    rw [update, map_request_modify hchange]
    exact h.requests⟩

theorem follows_permit : n.Follows n.permit := by
  rw [permit]
  split
  · exact ⟨List.prefix_rfl, List.prefix_rfl⟩
  · refine follows_update ⟨List.prefix_rfl, List.prefix_rfl⟩ fun f => ?_
    split <;> rfl

theorem follows_release {count : ℕ} : n.Follows (n.release count) := by
  induction count generalizing n with
  | zero => exact .refl n
  | succ count ih => exact follows_permit.trans ih

theorem follows_nextCue : n.Follows n.nextCue.2 := by
  rw [nextCue]
  split <;> exact ⟨List.prefix_rfl, List.prefix_rfl⟩

theorem follows_begin {f : Flight} : n.Follows (n.begin id f) := by
  have hnoted : n.Follows { n with sent := n.sent ++ [f.request] } :=
    ⟨List.prefix_append .., List.prefix_rfl⟩
  have hnext := hnoted.trans follows_nextCue
  rw [begin]
  generalize { n with sent := n.sent ++ [f.request] }.nextCue = next at hnext ⊢
  obtain ⟨cue, n'⟩ := next
  dsimp only at hnext ⊢
  split
  · exact follows_update hnext fun _ => rfl
  · split <;> exact follows_update ⟨hnext.sent, hnext.requests⟩ fun _ => rfl

theorem follows_advance : n.Follows (n.advance id) := by
  rw [advance]
  split
  · exact .refl n
  · split
    · exact .refl n
    · split
      · exact follows_update (.refl n) fun _ => rfl
      · exact follows_begin
    · split
      · exact follows_update ⟨List.prefix_rfl, List.prefix_rfl⟩ fun _ => rfl
      · exact .refl n
    · have hhalt : n.Follows (n.update id Flight.halt) := follows_update (.refl n) fun _ => rfl
      split
      · exact hhalt.trans follows_permit
      · exact follows_update (.refl n) fun _ => rfl

theorem follows_round : n.Follows n.round := by
  rw [round]
  generalize n.active = ids
  induction ids generalizing n with
  | nil => exact .refl n
  | cons id ids ih => exact follows_advance.trans ih

/-- **Tasks that go on** change nothing of what was sent before. -/
theorem follows_run : n.Follows n.run := by
  rw [run]
  generalize 2 * n.active.length = count
  induction count generalizing n with
  | zero => exact .refl n
  | succ count ih => exact follows_round.trans ih

end Network

end RestCall

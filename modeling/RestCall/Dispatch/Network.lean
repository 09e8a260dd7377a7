import RestCall.Dispatch.Exchange
/-!
# RestCall — a scripted transport

A transport that follows a script stands in for the network. It notes each
request when its task begins and takes the next cue of the script: a
response, a fault, or the loss of the task. A cue may be held back until a
permit is given; those that wait are served in the order in which they
came. A script that is used up answers with an empty success.

Tasks run one after another in the order in which they were started, until
none can go on.
-/

namespace RestCall

/-- What the transport does with a request. -/
inductive Reaction where
  | outcome (outcome : Outcome)
  | loss

/-- A cue of the script: a reaction, and whether it waits for a permit. -/
structure Cue where
  reaction : Reaction
  held : Bool

/-- The cue that follows the end of the script. -/
def Cue.standard : Cue := ⟨.outcome (.ok ⟨200, [], .empty⟩), false⟩

/-- How far the transport is with a request: its task has not begun, its
cue waits for a permit, the permit has been given, or it is done. -/
inductive Flight.Stage where
  | fresh
  | waiting (cue : Cue)
  | permitted (cue : Cue)
  | done

/-- A request in flight. -/
structure Flight where
  request : Request
  exchange : Exchange
  stage : Flight.Stage

namespace Flight

/-- An exchange after the reaction to its request. -/
def react : Reaction → Exchange → Exchange
  | .outcome outcome, x => x.deliver outcome
  | .loss, x => x.lose

/-- A request after its cue. -/
def finish (cue : Cue) (f : Flight) : Flight :=
  { f with exchange := react cue.reaction f.exchange, stage := .done }

/-- A request whose task has stopped. -/
def halt (f : Flight) : Flight := { f with exchange := f.exchange.stop, stage := .done }

/-- Whether the transport has more to do for a request. -/
def isActive (f : Flight) : Bool :=
  match f.stage with
  | .done => false
  | _ => true

end Flight

/-- The transport: its script, the requests it has noted, the permits that
nobody has taken, the requests in flight, and which of them wait. -/
structure Network where
  script : List Cue
  sent : List Request
  permits : Nat
  flights : List Flight
  queue : List Nat

namespace Network

/-- A transport with a script. -/
def start (script : List Cue) : Network := ⟨script, [], 0, [], []⟩

/-- More cues. -/
def extend (cues : List Cue) (n : Network) : Network := { n with script := n.script ++ cues }

/-- A request handed over, and its number. -/
def launch (request : Request) (n : Network) : Nat × Network :=
  (n.flights.length, { n with flights := n.flights ++ [⟨request, .start, .fresh⟩] })

/-- A request handed over where no task can run, and its number. -/
def strand (request : Request) (n : Network) : Nat × Network :=
  (n.flights.length,
    { n with flights := n.flights ++ [⟨request, .stranded request.operation, .done⟩] })

/-- A request in flight changed. -/
def update (id : Nat) (change : Flight → Flight) (n : Network) : Network :=
  { n with flights := n.flights.modify id change }

/-- The exchange of a number changed. -/
def onExchange (id : Nat) (change : Exchange → Exchange) (n : Network) : Network :=
  n.update id fun f => { f with exchange := change f.exchange }

/-- The exchange of a number. -/
def exchange? (id : Nat) (n : Network) : Option Exchange := n.flights[id]?.map Flight.exchange

/-! ## Permits -/

/-- One more permit: it goes to the first that waits. -/
def permit (n : Network) : Network :=
  match n.queue with
  | [] => { n with permits := n.permits + 1 }
  | id :: rest =>
    { n with queue := rest }.update id fun f =>
      match f.stage with
      | .waiting cue => { f with stage := .permitted cue }
      | _ => f

/-- A number of permits. -/
def release : Nat → Network → Network
  | 0, n => n
  | count + 1, n => release count n.permit

/-! ## Tasks -/

/-- The next cue, taken from the script. -/
def nextCue (n : Network) : Cue × Network :=
  match n.script with
  | [] => (.standard, n)
  | cue :: rest => (cue, { n with script := rest })

/-- Begins the task of a request: the request is noted and takes its cue. -/
def begin (id : Nat) (f : Flight) (n : Network) : Network :=
  let (cue, n) := { n with sent := n.sent ++ [f.request] }.nextCue
  if !cue.held then n.update id (Flight.finish cue)
  else if 0 < n.permits then { n with permits := n.permits - 1 }.update id (Flight.finish cue)
  else { n with queue := n.queue ++ [id] }.update id fun f => { f with stage := .waiting cue }

/-- Lets the task of a request go on as far as it can. One that is to be
cancelled stops; a permit it was given goes to the next. -/
def advance (id : Nat) (n : Network) : Network :=
  match n.flights[id]? with
  | none => n
  | some f =>
    match f.stage with
    | .done => n
    | .fresh => if f.exchange.cancelWanted then n.update id Flight.halt else n.begin id f
    | .waiting _ =>
      if f.exchange.cancelWanted then
        { n with queue := n.queue.filter (· != id) }.update id Flight.halt
      else n
    | .permitted cue =>
      if f.exchange.cancelWanted then (n.update id Flight.halt).permit
      else n.update id (Flight.finish cue)

/-- The numbers of the requests that the transport has more to do for. -/
def active (n : Network) : List Nat :=
  (n.flights.zipIdx.filter fun f => f.1.isActive).map (·.2)

/-- Lets every task go on once. -/
def round (n : Network) : Network := n.active.foldl (fun n id => n.advance id) n

/-- A number of rounds. -/
def rounds : Nat → Network → Network
  | 0, n => n
  | count + 1, n => rounds count n.round

/-- Lets tasks go on until none can. In a round with any effect a task
ends or begins to wait, so twice as many rounds as there are active tasks
are enough. -/
def run (n : Network) : Network := rounds (2 * n.active.length) n

end Network

end RestCall

import RestCall.Response.Resolver
/-!
# RestCall — one exchange in flight

A request handed over is sent by a task of its own; whoever waits for it
holds a handle. Between the two lie a state that is settled once, a wish
to cancel, and a channel that carries at most one outcome. The task
settles the state before it sends the outcome. Cancelling settles the
state too, so it has no effect once the task has settled it, and what the
transport brings afterwards is dropped.

Each thing that can happen is one function here; an exchange evolves by
any sequence of them.
-/

namespace RestCall

/-- How far an exchange is, as its handle shows it. -/
inductive HandleState where
  | pending
  | succeeded
  | failed
  | cancelled
deriving Repr, DecidableEq

namespace HandleState

/-- Whether nothing can change any more. -/
def isTerminal : HandleState → Bool
  | .pending => false
  | _ => true

/-- The name of a state. -/
def describe : HandleState → String
  | .pending => "Pending"
  | .succeeded => "Succeeded"
  | .failed => "Failed"
  | .cancelled => "Cancelled"

/-- The state that an outcome settles. -/
def ofOutcome : Outcome → HandleState
  | .ok _ => .succeeded
  | .error _ => .failed

end HandleState

/-- How far the task of an exchange is: the transport is at work, it has
completed with an outcome, the outcome has settled the state, or the task
has ended. -/
inductive Exchange.Task where
  | sending
  | completed (outcome : Outcome)
  | settled (outcome : Outcome)
  | ended

/-- What is in the channel of an exchange: nothing yet, an outcome, or
nothing ever because the task has ended without one. -/
inductive Exchange.Channel where
  | open
  | sent (outcome : Outcome)
  | dropped

/-- An exchange: its state, whether it is to be cancelled, its task, its
channel, and whether the handle still listens. -/
structure Exchange where
  state : HandleState
  cancelWanted : Bool
  task : Exchange.Task
  channel : Exchange.Channel
  listening : Bool

namespace Exchange

/-- An exchange whose request has just been handed over. -/
def start : Exchange := ⟨.pending, false, .sending, .open, true⟩

/-! ## What the task does -/

/-- The transport completes with an outcome. -/
def complete (outcome : Outcome) (x : Exchange) : Exchange :=
  match x.task with
  | .sending => { x with task := .completed outcome }
  | _ => x

/-- The outcome settles the state. When that is settled already the outcome
is dropped. -/
def settle (x : Exchange) : Exchange :=
  match x.task with
  | .completed outcome =>
    if x.state = .pending then
      { x with state := .ofOutcome outcome, task := .settled outcome }
    else { x with task := .ended, channel := .dropped }
  | _ => x

/-- The outcome goes into the channel. -/
def send (x : Exchange) : Exchange :=
  match x.task with
  | .settled outcome => { x with task := .ended, channel := .sent outcome }
  | _ => x

/-- The task notices the wish to cancel while the transport is at work. -/
def stop (x : Exchange) : Exchange :=
  match x.task with
  | .sending => if x.cancelWanted then { x with task := .ended, channel := .dropped } else x
  | _ => x

/-- The task is lost while the transport is at work. -/
def lose (x : Exchange) : Exchange :=
  match x.task with
  | .sending => { x with task := .ended, channel := .dropped }
  | _ => x

/-- The transport completes and the task goes on to its end. -/
def deliver (outcome : Outcome) (x : Exchange) : Exchange := (x.complete outcome).settle.send

/-! ## What holders of the handle do -/

/-- Whether the exchange has been cancelled. -/
def isCancelled (x : Exchange) : Bool := x.state == .cancelled

/-- Cancels as far as the state goes, and tells whether that has settled it. -/
def strike (x : Exchange) : Bool × Exchange :=
  if x.state = .pending then (true, { x with state := .cancelled }) else (false, x)

/-- Makes the wish to cancel known to the task. -/
def signal (x : Exchange) : Exchange := { x with cancelWanted := true }

/-- Cancels, when the state is pending: it is settled, and then the task is
told. -/
def cancel (x : Exchange) : Exchange :=
  match x.strike with
  | (true, x) => x.signal
  | (false, x) => x

/-- The fault of polling after the outcome has been taken. -/
def polledAgain : Fault := .transport (.other "dispatch handle polled after resolution")

/-- The fault of a task that has ended without an outcome. -/
def noOutcome : Fault := .transport (.other "dispatch task ended without a result")

/-- The first look of a poll: a cancelled exchange answers at once. -/
def look (x : Exchange) : Option Outcome × Exchange :=
  if x.isCancelled then (some (.error .cancelled), { x with listening := false }) else (none, x)

/-- What the channel brings. Unless it is still open nobody listens to it
afterwards. -/
def hear (x : Exchange) : Channel × Exchange :=
  match x.channel with
  | .open => (.open, x)
  | channel => (channel, { x with listening := false })

/-- The answer of a poll that has found the channel dropped. -/
def conclude (x : Exchange) : Outcome :=
  .error (if x.isCancelled then .cancelled else noOutcome)

/-- Asks for the outcome: there may be none yet, and it is given once. A
cancelled exchange answers with its cancellation every time. -/
def poll (x : Exchange) : Option Outcome × Exchange :=
  match x.look with
  | (some outcome, x) => (some outcome, x)
  | (none, x) =>
    if !x.listening then (some (.error polledAgain), x)
    else match x.hear with
      | (.open, x) => (none, x)
      | (.sent outcome, x) => (some outcome, x)
      | (.dropped, x) => (some x.conclude, x)

/-! ## Without a runtime -/

/-- The fault of a request handed over where no task can run. -/
def noRuntime (operation : String) : Fault :=
  .configuration "dispatch requires a tokio runtime"
    { Context.empty with
      operation := some operation
      details := some "there is no reactor running, must be called from the context of a Tokio 1.x runtime"
      source := some "dispatcher" }

/-- An exchange that has failed because no task can run. -/
def stranded (operation : String) : Exchange := start.deliver (.error (noRuntime operation))

end Exchange

end RestCall

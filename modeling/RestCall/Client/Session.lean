import RestCall.Client.Basic
import RestCall.Dispatch.Network
/-!
# RestCall — sessions

A session is a client at work over a scripted transport: the credentials
as they are now, the time, the transport and the warnings so far. A call
is submitted and waited for, or invoked, which is both; a call that is
invoked with retries is prepared anew for every attempt. Waiting lets all
tasks go on; when none can and there is still no outcome, the call stays
pending.
-/

namespace RestCall

/-- A client at work. -/
structure Session where
  client : Client
  credentials : Option Credentials
  now : Int
  network : Network
  warnings : List Warning

/-- A submitted call: its operation, and the number of its exchange. -/
structure Call where
  operation : Operation
  exchange : Nat

namespace Session

/-- A session that begins. -/
def start (client : Client) (credentials : Option Credentials) (now : Int) (script : List Cue) :
    Session := ⟨client, credentials, now, .start script, []⟩

/-- What a call captures. -/
def moment (s : Session) : Moment := ⟨s.credentials, s.now⟩

/-- The request of a call. -/
def prepare (s : Session) (id : String) (args : List Argument) (options : List Options) :
    Except Fault Request := s.client.prepare s.moment id args options

/-- Other credentials, or none. -/
def setCredentials (credentials : Option Credentials) (s : Session) : Session :=
  { s with credentials }

/-! ## Exchanges -/

/-- A request handed over, with or without a runtime that tasks run on. -/
def dispatch (hasRuntime : Bool) (request : Request) (s : Session) : Nat × Session :=
  if hasRuntime then
    let (exchange, network) := s.network.launch request
    (exchange, { s with network })
  else
    let (exchange, network) := s.network.strand request
    (exchange, { s with network, warnings := s.warnings ++ [.noRuntime request.operation] })

/-- The exchange of a number. -/
def exchange (s : Session) (id : Nat) : Exchange := (s.network.exchange? id).getD .start

/-- Lets all tasks go on. -/
def run (s : Session) : Session := { s with network := s.network.run }

/-- Cancels an exchange. -/
def cancel (id : Nat) (s : Session) : Session :=
  { s with network := s.network.onExchange id Exchange.cancel }

/-- Asks an exchange for its outcome. -/
def poll (id : Nat) (s : Session) : Option Outcome × Session :=
  let (outcome, x) := (s.exchange id).poll
  (outcome, { s with network := s.network.onExchange id fun _ => x })

/-- Waits for the outcome of an exchange. -/
def await (id : Nat) (s : Session) : Option Outcome × Session :=
  match s.poll id with
  | (some outcome, s') => (some outcome, s')
  | (none, s') => s'.run.poll id

/-! ## Calls -/

/-- Submits a call. -/
def submit (hasRuntime : Bool) (id : String) (args : List Argument) (options : List Options)
    (s : Session) : Except Fault (Call × Session) := do
  let o ← s.client.describe id
  let request ← s.client.prepareWith s.moment o args options
  let (exchange, s') := s.dispatch hasRuntime request
  return (⟨o, exchange⟩, s')

/-- Waits for the result of a call. -/
def wait (call : Call) (s : Session) : Option (Except Fault Resolution) × Session :=
  let (outcome, s') := s.await call.exchange
  (outcome.map (s.client.resolver.resolve call.operation), s')

/-- Submits a call and waits for its result. -/
def invoke (id : String) (args : List Argument) (options : List Options) (s : Session) :
    Option (Except Fault Resolution) × Session :=
  match s.submit true id args options with
  | .error fault => (some (.error fault), s)
  | .ok (call, s') => s'.wait call

/-- Invokes a call under the client's policy. -/
def invokeWithRetry (id : String) (args : List Argument) (options : List Options) (s : Session) :
    Option (Except Fault Resolution) × Session :=
  let (result, a, s') := s.client.retry.follow id (invoke id args options) .first s
  (result, { s' with warnings := s'.warnings ++ a.warnings })

end Session

end RestCall

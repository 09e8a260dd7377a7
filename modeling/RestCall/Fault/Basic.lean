import RestCall.Fault.Declaration
import RestCall.Json.Failure
import RestCall.Text.Blank
import RestCall.Url.Basic
/-!
# RestCall — faults of calls

Everything that can end a call without a result. Binding and filter faults
come before anything is sent; the faults with a status come from the
provider; timeouts are the only kind that is worth another attempt.
-/

namespace RestCall

/-- Where a fault comes from, as far as that is known. -/
structure Context where
  operation : Option String
  field : Option String
  details : Option String
  source : Option String
deriving Repr, DecidableEq

namespace Context

/-- Nothing known. -/
def empty : Context := ⟨none, none, none, none⟩

/-- A part that is known, under its label. -/
def labelled (label : String) : Option String → List String
  | none => []
  | some value => [label ++ ": " ++ value]

/-- What is known, in parentheses; nothing when nothing is known. -/
def describe (c : Context) : String :=
  let parts := labelled "operation" c.operation ++ labelled "field" c.field ++
    labelled "details" c.details ++ labelled "source" c.source
  if parts.isEmpty then "" else " (" ++ Text.join ", " parts ++ ")"

/-- A context that names the operation, when it named none. -/
def orOperation (operation : String) (c : Context) : Context :=
  { c with operation := c.operation.or (some operation) }

end Context

/-- Faults of the exchange itself. One that the request library reports may
be a timeout of its own. -/
inductive TransportFault where
  | request (detail : String) (timedOut : Bool)
  | timedOut (message : String)
  | other (message : String)
deriving Repr, DecidableEq

/-- The wording of a transport fault. -/
def TransportFault.describe : TransportFault → String
  | .request detail _ => s!"HTTP error: {detail}"
  | .timedOut message => s!"Timed out: {message}"
  | .other message => s!"Transport error: {message}"

/-- The fault of a request whose address is no URL. -/
def TransportFault.ofFlaw (flaw : Url.Flaw) : TransportFault :=
  .request ("builder error: " ++ flaw.describe) false

/-- The fault of a request whose address has no host. -/
def TransportFault.ofHostless (url : Url) : TransportFault :=
  .request s!"builder error for url ({url.text}): URL scheme is not allowed" false

/-- A fault of a call. -/
inductive Fault where
  | declaration (fault : DeclarationFault)
  | binding (message : String) (context : Context)
  | filter (message : String) (context : Context)
  | timeout (message : String)
  | transport (fault : TransportFault)
  | response (operation : String) (status : Nat) (body : String)
  | unauthorized (status : Nat) (message : String)
  | notFound (message : String)
  | illegalState (status : Nat) (message : String)
  | parse (message : String) (context : Context)
  | cancelled
  | configuration (message : String) (context : Context)
  | serialization (message : String)
deriving Repr, DecidableEq

namespace Fault

/-- The wording of a fault. -/
def describe : Fault → String
  | .declaration fault => "Descriptor error: " ++ fault.describe
  | .binding message c => s!"Binding error: {message}" ++ c.describe
  | .filter message c => s!"Request filter error: {message}" ++ c.describe
  | .timeout message => s!"Request timed out: {message}"
  | .transport fault => "Network transport error: " ++ fault.describe
  | .response operation status body => s!"HTTP {status} returned by {operation}: {body}"
  | .unauthorized status message => s!"Not authorized (HTTP {status}): {message}"
  | .notFound message => s!"Resource not found: {message}"
  | .illegalState status message => s!"Illegal state (HTTP {status}): {message}"
  | .parse message c => s!"Response parsing error: {message}" ++ c.describe
  | .cancelled => "Operation cancelled"
  | .configuration message c => s!"Configuration error: {message}" ++ c.describe
  | .serialization message => s!"Serialization error: {message}"

/-- The name of a fault's kind. -/
def kind : Fault → String
  | .declaration fault => "Descriptor." ++ fault.kind
  | .binding _ _ => "Binding"
  | .filter _ _ => "Filter"
  | .timeout _ => "Timeout"
  | .transport (.request _ _) => "Transport.Http"
  | .transport (.timedOut _) => "Transport.TimedOut"
  | .transport (.other _) => "Transport.Other"
  | .response _ _ _ => "ResponseFault"
  | .unauthorized _ _ => "Authorization"
  | .notFound _ => "ResourceNotFound"
  | .illegalState _ _ => "IllegalState"
  | .parse _ _ => "Parse"
  | .cancelled => "Cancelled"
  | .configuration _ _ => "Configuration"
  | .serialization _ => "Serialization"

/-- Whether the fault is a timeout, be it reported as one or by the
transport. -/
def isTimeout : Fault → Bool
  | .timeout _ => true
  | .transport (.request _ timedOut) => timedOut
  | .transport (.timedOut _) => true
  | _ => false

/-- The status that the provider answered with, as far as the fault tells. -/
def status? : Fault → Option Nat
  | .response _ status _ => some status
  | .unauthorized status _ => some status
  | .illegalState status _ => some status
  | .notFound _ => some 404
  | _ => none

/-- Whether the fault means that the resource is not there. -/
def isNotFound (fault : Fault) : Bool := fault.status? == some 404

/-- Where the fault comes from, for the kinds that keep it. -/
def context? : Fault → Option Context
  | .binding _ c => some c
  | .filter _ c => some c
  | .parse _ c => some c
  | .configuration _ c => some c
  | _ => none

end Fault

end RestCall

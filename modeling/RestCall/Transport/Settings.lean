import RestCall.Fault.Basic
import RestCall.Json.Value
import RestCall.Shape.Source
import RestCall.Url.Parser
/-!
# RestCall — settings of the HTTP transport

Timeouts, the pool of connections, a proxy and the name sent as the user
agent. Variables of the environment take precedence; those that do not
read as a number are ignored. A proxy is an HTTP address whose scheme may
be left out.
-/

namespace RestCall

/-- The settings of the transport. -/
structure TransportSettings where
  timeoutSeconds : Nat
  idlePerHost : Nat
  idleSeconds : Nat
  proxy : Option String
  userAgent : Option String
deriving Repr, DecidableEq

/-- Variables of the environment. -/
abbrev Environment := List (String × String)

namespace Environment

/-- The value of a variable. -/
def get? (env : Environment) (name : String) : Option String := Json.find? name env

/-- The value of a variable, when it is a number up to a bound. -/
def number? (env : Environment) (name : String) (bound : Nat) : Option Nat :=
  (env.get? name).bind fun s => Numeral.natural? 10 bound s.toList

end Environment

namespace TransportSettings

/-- The settings that hold when nothing else is said. -/
def standard : TransportSettings := ⟨30, 32, 90, none, none⟩

/-- Settings with what the environment says. -/
def override (env : Environment) (s : TransportSettings) : TransportSettings where
  timeoutSeconds := (env.number? "CLOUD_HTTP_TIMEOUT_SECS" Numeral.max64).getD s.timeoutSeconds
  idlePerHost := (env.number? "CLOUD_HTTP_POOL_MAX_IDLE_PER_HOST" Numeral.max64).getD s.idlePerHost
  idleSeconds := (env.number? "CLOUD_HTTP_POOL_IDLE_TIMEOUT_SECS" Numeral.max64).getD s.idleSeconds
  proxy := (env.get? "CLOUD_PROXY_URL").or s.proxy
  userAgent := s.userAgent

/-! ## As documents -/

section Reading

open Shape

variable {m : Type → Type} [Source m]

/-- The settings as a record. -/
def record : Record m TransportSettings where
  name := "HttpTransportConfig"
  start := standard
  fields :=
    [Shape.optional "timeout_secs" (natural .natural64)
       fun s timeoutSeconds => { s with timeoutSeconds },
     Shape.optional "pool_max_idle_per_host" (natural .index)
       fun s idlePerHost => { s with idlePerHost },
     Shape.optional "pool_idle_timeout_secs" (natural .natural64)
       fun s idleSeconds => { s with idleSeconds },
     Shape.optional "proxy_url" (Source.optional Source.text) fun s proxy => { s with proxy },
     Shape.optional "user_agent" (Source.optional Source.text)
       fun s userAgent => { s with userAgent }]

end Reading

/-- A member that is written when its setting is there. -/
def textMember? (key : String) : Option String → List (String × Json)
  | none => []
  | some s => [(key, .string s)]

/-- The settings as a value. -/
def toJson (s : TransportSettings) : Json :=
  .object ([("timeout_secs", Json.ofNat s.timeoutSeconds),
      ("pool_max_idle_per_host", Json.ofNat s.idlePerHost),
      ("pool_idle_timeout_secs", Json.ofNat s.idleSeconds)] ++
    textMember? "proxy_url" s.proxy ++ textMember? "user_agent" s.userAgent)

/-! ## What a transport can be built from -/

/-- Why no transport can be built. -/
inductive Flaw where
  | proxyAddress (flaw : Url.Flaw)
  | proxyHost (url : Url)
  | proxyScheme
  | proxyCharacter
  | userAgent

/-- The wording of a flaw. -/
def Flaw.describe : Flaw → String
  | .proxyAddress flaw => "builder error: builder error: " ++ flaw.describe
  | .proxyHost url => s!"builder error: builder error for url ({url.text}): URL scheme is not allowed"
  | .proxyScheme => "builder error: unknown proxy scheme"
  | .proxyCharacter => "builder error: invalid uri character"
  | .userAgent => "builder error: failed to parse header value"

/-- The address of a proxy. When its scheme seems to be missing, HTTP is
assumed; when that does not help, the first flaw is reported. -/
def proxyUrl (s : String) : Except Flaw Url :=
  let assumed (flaw : Flaw) : Except Flaw Url :=
    match Url.parse ("http://" ++ s) with
    | .ok url => if url.host.isSome then .ok url else .error flaw
    | .error _ => .error flaw
  match Url.parse s with
  | .ok url => if url.host.isSome then .ok url else assumed (.proxyHost url)
  | .error .relative => assumed (.proxyAddress .relative)
  | .error flaw => .error (.proxyAddress flaw)

/-- A character that hosts may hold and addresses on the wire may not. -/
def isUnsendable (c : Char) : Bool := "\"\x60\x7b\x7d".toList.contains c

/-- Checks a proxy. -/
def checkProxy (s : String) : Except Flaw Unit := do
  let url ← proxyUrl s
  if url.scheme != "http" && url.scheme != "https" then throw .proxyScheme
  if (url.host.getD "").toList.any isUnsendable then throw .proxyCharacter

/-- A character that may stand in the value of a header. -/
def isHeaderChar (c : Char) : Bool := c == '\t' || (0x20 ≤ c.toNat && c.toNat != 0x7F)

/-- Checks that a transport can be built. -/
def check (s : TransportSettings) : Except Flaw Unit := do
  match s.proxy with
  | some proxy => checkProxy proxy
  | none => pure ()
  if (s.userAgent.getD "").toList.any fun c => !isHeaderChar c then throw .userAgent

/-- The fault of settings that no transport can be built from. -/
def Flaw.fault (flaw : Flaw) : Fault := .transport (.other flaw.describe)

end TransportSettings

end RestCall

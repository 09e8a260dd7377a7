import RestCall.Transport.Settings
import RestCall.Yaml.Document
/-!
# RestCall — settings of a client

An endpoint, the settings of the transport and the number of attempts,
each of which may be left out. They are read from a YAML text and
overridden by the environment.
-/

namespace RestCall

/-- The settings of a client. -/
structure Settings where
  endpoint : Option String
  transport : TransportSettings
  maxAttempts : Option UInt32
deriving Repr, DecidableEq

namespace Settings

/-- The settings that hold when nothing else is said. -/
def standard : Settings := ⟨none, .standard, none⟩

/-- Settings with what the environment says. -/
def override (env : Environment) (s : Settings) : Settings :=
  { s with
    transport := s.transport.override env
    maxAttempts :=
      ((env.number? "CLOUD_RETRY_MAX_ATTEMPTS" Numeral.max32).map UInt32.ofNat).or s.maxAttempts }

section Reading

open Shape

variable {m : Type → Type} [Source m]

/-- A number of attempts. -/
def attemptsValue : m UInt32 := do return UInt32.ofNat (← natural .natural32)

/-- The settings as a record. -/
def record : Record m Settings where
  name := "ClientConfig"
  start := standard
  fields :=
    [Shape.optional "endpoint" (Source.optional Source.text) fun s endpoint => { s with endpoint },
     Shape.optional "http" (Source.record TransportSettings.record)
       fun s transport => { s with transport },
     Shape.optional "retry_max_attempts" (Source.optional attemptsValue)
       fun s maxAttempts => { s with maxAttempts }]

end Reading

/-- The settings of a YAML text. -/
def ofYaml (text : String) : Except Fault Settings :=
  (Yaml.parse (Shape.Source.record record) text).mapError fun e =>
    .configuration ("invalid client config: " ++ e.describe)
      { Context.empty with source := some "client_config" }

/-- The settings as a value. -/
def toJson (s : Settings) : Json :=
  let attempts := match s.maxAttempts with
    | none => []
    | some n => [("retry_max_attempts", Json.ofNat n.toNat)]
  .object (TransportSettings.textMember? "endpoint" s.endpoint ++
    [("http", s.transport.toJson)] ++ attempts)

end Settings

end RestCall

import RestCall.Text.Quoted
/-!
# RestCall — credentials

An identity with its secret, and a token when a session is open. They can
be replaced or withdrawn at any time between calls; a call reads them
once. Displays never show a secret or a token.
-/

namespace RestCall

/-- The credentials of an account. -/
structure Credentials where
  identity : String
  secret : String
  token : Option String
deriving Repr, DecidableEq

namespace Credentials

/-- What stands for a secret in displays. -/
def redacted : String := Text.quoted "[REDACTED]"

/-- The display of credentials. -/
def display (c : Credentials) : String :=
  "Credentials \x7b identity: " ++ Text.quoted c.identity ++ ", secret: " ++ redacted ++
    ", token: " ++ (if c.token.isSome then "Some(" ++ redacted ++ ")" else "None") ++ " \x7d"

/-- The display of the place where credentials are kept. -/
def displayStore (stored : Option Credentials) : String :=
  "CredentialStore \x7b credentials: " ++
    (match stored with
      | some c => "Some(" ++ c.display ++ ")"
      | none => "None") ++ " \x7d"

end Credentials

end RestCall

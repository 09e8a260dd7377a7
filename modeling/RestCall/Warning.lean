import RestCall.Fault.Basic
/-!
# RestCall — warnings

What is worth a line in the log of a client that otherwise works: that a
call is tried again, and that a request was handed over where nothing can
send it.
-/

namespace RestCall

/-- A warning. -/
inductive Warning where
  | retrying (operation : String) (attempt maxAttempts : UInt32) (fault : Fault)
  | noRuntime (operation : String)
deriving Repr, DecidableEq

/-- The fields of a warning, its message first. -/
def Warning.fields : Warning → List (String × String)
  | .retrying operation attempt maxAttempts fault =>
    [("message", "timed out, retrying"), ("operation", operation),
      ("attempt", toString attempt), ("max_attempts", toString maxAttempts),
      ("error", fault.describe)]
  | .noRuntime operation =>
    [("message", "dispatch outside of a tokio runtime"), ("operation", operation)]

end RestCall

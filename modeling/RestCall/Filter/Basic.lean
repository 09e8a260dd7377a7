import RestCall.Calendar.Date
import RestCall.Component.Basic
import RestCall.Credentials
import RestCall.Digest.Hmac
import RestCall.Encoding.Base64
import RestCall.Fault.Basic
import RestCall.Request.Basic
import RestCall.Text.Order
/-!
# RestCall — filters

A filter completes a request with what depends on the moment of the call:
credentials, a signature, the date. It sees the credentials and the time
as they were captured once for the call. What a filter writes replaces
what it wrote before, so filtering a request again is harmless.
-/

namespace RestCall

/-- What is captured for a call: the credentials, when there are some, and
the time in seconds. -/
structure Moment where
  credentials : Option Credentials
  now : Int
deriving Repr, DecidableEq

/-- A filter of requests. -/
structure Filter where
  apply : Moment → Request → Except Fault Request

namespace Filter

/-- What a filter lacks. -/
def lack (filter message : String) : Fault :=
  .filter message { Context.empty with source := some filter }

/-- The captured credentials, or the fault of their absence. -/
def credentials (m : Moment) (filter : String) : Except Fault Credentials :=
  match m.credentials with
  | some c => .ok c
  | none => .error (lack filter "no credentials available")

/-- A request with a header in place of all of its name. -/
def setHeader (name value : String) (r : Request) : Request :=
  { r with headers := r.headers.set name value }

/-! ## Headers -/

/-- The value of a header that carries identity and secret. -/
def basicValue (identity secret : String) : String :=
  "Basic " ++ Base64.encoded (Utf8.ofString (identity ++ ":" ++ secret))

/-- Sends identity and secret. -/
def basicAuth : Filter where
  apply := fun m r => do
    let c ← credentials m "basic_auth"
    return setHeader "Authorization" (basicValue c.identity c.secret) r

/-- Sends the token of the session. -/
def authToken : Filter where
  apply := fun m r => do
    let c ← credentials m "auth_token"
    match c.token with
    | some token => return setHeader "X-Auth-Token" token r
    | none => throw (lack "auth_token" "credentials carry no session token")

/-- Sends the date. -/
def dateHeader : Filter where
  apply := fun m r => .ok (setHeader "Date" (Calendar.httpDate m.now) r)

/-! ## Signatures -/

/-- A parameter as signatures cover it: the value encoded, the whole in
lower case. -/
def signedEntry (entry : String × String) : String :=
  Text.lower (entry.1 ++ "=" ++ Percent.encodeComponent [] entry.2)

/-- The text that a signature covers: all parameters in order. -/
def stringToSign (q : Query) : String :=
  Text.join "&" (Text.sorted (q.entries.map signedEntry))

/-- The signature of a text. -/
def sign (secret text : String) : String :=
  Base64.encoded (Hmac.sha256 (Utf8.ofString secret) (Utf8.ofString text))

/-- A known digest of a message under a key, as a signature. -/
example : sign "key" "The quick brown fox jumps over the lazy dog" =
    "97yD9DBThCSxMpjmqm+xQ+9NWaFJRhdZl0edvC0aPNg=" := by decide +kernel

/-- The key of the parameter that names the account. -/
def accountKey : String := "apiKey"

/-- The key of the parameter that holds the signature. -/
def signatureKey : String := "signature"

/-- Query parameters signed for an account. -/
def signQuery (c : Credentials) (q : Query) : Query :=
  let named := (q.remove signatureKey).set accountKey c.identity
  named.append signatureKey (sign c.secret (stringToSign named))

/-- Names the account and signs the query. -/
def querySigner : Filter where
  apply := fun m r => do
    let c ← credentials m "query_signer"
    return { r with query := signQuery c r.query }

/-- The filters that are built in. -/
def builtin : Family Filter :=
  [("basic_auth", basicAuth), ("auth_token", authToken), ("query_signer", querySigner),
    ("date_header", dateHeader)].foldl
    (fun f (id, filter) => f.register id filter) (Family.empty "filter")

end Filter

end RestCall

import RestCall.Fault.Basic
import RestCall.Json.Lens
import RestCall.Json.Printer
import RestCall.Request.Basic
/-!
# RestCall — responses and results

A response is what the provider sent. Resolving it gives a value, absence
or nothing at all; a value can be read further into a type of the
caller's.
-/

namespace RestCall

/-- A response. -/
structure Response where
  status : Nat
  body : Bytes
  headers : Headers
deriving Repr, DecidableEq

namespace Response

/-- Whether the status says success. -/
def isSuccess (r : Response) : Bool := 200 ≤ r.status && r.status < 300

/-- The body as characters, ill-formed stretches being replaced. -/
def characters (r : Response) : List Char := Utf8.lenient r.body

/-- The body as text. -/
def text (r : Response) : String := String.ofList r.characters

end Response

/-- The result of a call: a value, the absence of one, or nothing because
the operation returns nothing. -/
inductive Resolution where
  | value (v : Json)
  | absent
  | void

namespace Resolution

instance : Inhabited Resolution := ⟨.void⟩

/-- Whether the result is absence. -/
def isAbsent : Resolution → Bool
  | .absent => true
  | _ => false

/-- Whether the operation returned nothing. -/
def isVoid : Resolution → Bool
  | .void => true
  | _ => false

/-- The value, if there is one. -/
def value? : Resolution → Option Json
  | .value v => some v
  | _ => none

/-- The fault of a value that is not of the wanted type. -/
def misfit (m : Shape.Misfit) : Fault :=
  .parse ("response does not match the expected type: " ++ m.describe Json.wording)
    { Context.empty with source := some "resolution" }

/-- The value read into a type; there is none for absence and nothing. -/
def typed {α : Type} (lens : Json.Lens α) : Resolution → Except Fault (Option α)
  | .value v =>
    match lens v with
    | .ok a => .ok (some a)
    | .error m => .error (misfit m)
  | _ => .ok none

end Resolution

end RestCall

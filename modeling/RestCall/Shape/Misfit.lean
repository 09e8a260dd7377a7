import RestCall.Decimal.Layout
import RestCall.Text.Quoted
/-!
# RestCall — values that do not have the expected shape

Manifests, configurations and typed responses are read into records. When
a document does not have the shape of the record, a misfit says what was
found and what was expected. Formats differ in how they name the empty
value and write a double, and in nothing else.
-/

namespace RestCall

namespace Shape

/-- How a format words what it found. -/
structure Wording where
  empty : String
  float : Decimal.Layout

/-- What was found where something else was expected. -/
inductive Found where
  | empty
  | flag (b : Bool)
  | integer (n : Int)
  | float (x : Float)
  | text (s : String)
  | sequence
  | map
  | other (description : String)

/-- What was found, in words. -/
def Found.describe (w : Wording) : Found → String
  | .empty => w.empty
  | .flag b => s!"boolean `{b}`"
  | .integer n => s!"integer `{n}`"
  | .float x => "floating point `" ++ Decimal.render w.float x ++ "`"
  | .text s => "string " ++ Text.quoted s
  | .sequence => "sequence"
  | .map => "map"
  | .other description => description

/-- Why a document does not have the expected shape. -/
inductive Misfit where
  | wrongType (found : Found) (expected : String)
  | wrongValue (found : Found) (expected : String)
  | wrongLength (length : Nat) (expected : String)
  | missingField (name : String)
  | duplicateField (name : String)
  | noAlternative (name : String)
  | variant

/-- A misfit in words. -/
def Misfit.describe (w : Wording) : Misfit → String
  | .wrongType found expected => "invalid type: " ++ found.describe w ++ ", expected " ++ expected
  | .wrongValue found expected => "invalid value: " ++ found.describe w ++ ", expected " ++ expected
  | .wrongLength length expected => s!"invalid length {length}, expected {expected}"
  | .missingField name => s!"missing field `{name}`"
  | .duplicateField name => s!"duplicate field `{name}`"
  | .noAlternative name => s!"data did not match any variant of untagged enum {name}"
  | .variant => "untagged and internally tagged enums do not support enum input"

end Shape

end RestCall

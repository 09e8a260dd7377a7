import RestCall.Collection.Distinct
import RestCall.Component.Basic
import RestCall.Json.Parser
import RestCall.Response.Basic
import RestCall.Text.Lines
/-!
# RestCall — response parsers

A parser reads the body of a successful response: as JSON, as text, as
lines, as records of keys and values, or not at all. Records are separated
by blank lines; each of their lines is a key and, after a blank, a value.
-/

namespace RestCall

/-- A parser of responses. -/
structure Parser where
  parse : Response → Except Fault Resolution

namespace Parser

/-! ## JSON and text -/

/-- A byte that is white space in ASCII. -/
def isSpaceByte (b : UInt8) : Bool :=
  b == 0x20 || b == 0x09 || b == 0x0A || b == 0x0C || b == 0x0D

/-- The body as JSON; a blank body is absence. -/
def json : Parser where
  parse := fun r =>
    if r.body.all isSpaceByte then .ok .absent
    else match Json.parseBytes r.body with
      | .ok v => .ok (.value v)
      | .error e =>
        .error (.parse e.describe
          { Context.empty with source := some "json", details := some s!"status {r.status}" })

/-- The body as one string. -/
def plainText : Parser where
  parse := fun r => .ok (.value (.string r.text))

/-! ## Lines -/

/-- The lines that are not blank, trimmed and without repetitions. -/
def distinctLines (cs : List Char) : List (List Char) :=
  Collection.distinct (((Text.lines cs).map Text.trim).filter fun line => !line.isEmpty)

/-- The lines of the body as an array of strings. -/
def splitNewlines : Parser where
  parse := fun r =>
    .ok (.value (.array ((distinctLines r.characters).map fun line =>
      .string (String.ofList line))))

/-! ## Records -/

/-- A record: values under their keys, in order. -/
abbrev Fields := List (String × String)

/-- The key and the value of a line. -/
def keyValue (line : List Char) : String × String :=
  match Text.splitFirst Text.isBlank line with
  | some (key, value) => (String.ofList key, String.ofList (Text.trim value))
  | none => (String.ofList line, "")

/-- A record as a list: none when it is empty. -/
def finished (current : Fields) : List Fields := if current.isEmpty then [] else [current]

/-- The records of trimmed lines, after the fields of a record that has
been begun. -/
def recordsFrom (current : Fields) : List (List Char) → List Fields
  | [] => finished current
  | [] :: rest => finished current ++ recordsFrom [] rest
  | line :: rest =>
    let (key, value) := keyValue line
    recordsFrom (Json.insert key value current) rest

/-- The records of a text. -/
def records (cs : List Char) : List Fields :=
  recordsFrom [] ((Text.lines cs).map Text.trim)

/-- A record as an object. -/
def objectOf (fields : Fields) : Json := .object (fields.map fun (k, v) => (k, .string v))

/-- The first record as an object; without records absence. -/
def keyValues : Parser where
  parse := fun r =>
    .ok (match records r.characters with
      | fields :: _ => .value (objectOf fields)
      | [] => .absent)

/-- All records as an array of objects. -/
def keyValuesList : Parser where
  parse := fun r => .ok (.value (.array ((records r.characters).map objectOf)))

/-- No result, whatever the body. -/
def releasePayload : Parser where
  parse := fun _ => .ok .void

/-- The parsers that are built in. -/
def builtin : Family Parser :=
  [("json", json), ("plain_text", plainText), ("split_newlines", splitNewlines),
    ("key_values", keyValues), ("key_values_list", keyValuesList),
    ("release_payload", releasePayload)].foldl
    (fun f (id, parser) => f.register id parser) (Family.empty "parser")

end Parser

end RestCall

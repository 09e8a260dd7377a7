import RestCall.Fault.Basic
import RestCall.Json.Printer
import RestCall.Shape.Source
import RestCall.Text.Blank
import RestCall.Url.Basic
/-!
# RestCall — arguments

The arguments of a call are positional. Each has a text, which goes into
paths, queries and headers, and a JSON value, which goes into payloads.
Absent arguments have no text: `null`, and the JSON value `null`. Structured
values are turned into JSON first; that fails for tables whose keys have
no text.
-/

namespace RestCall

/-- An argument of a call. -/
inductive Argument where
  | null
  | bool (b : Bool)
  | integer (n : Int)
  | float (x : Float)
  | text (s : String)
  | name (s : String)
  | uri (u : Url)
  | json (v : Json)
  | list (items : List Argument)

namespace Json

mutual

/-- The text of a JSON value on the wire: strings as they are, lists with
commas and without what is null, objects as JSON. -/
def wire? : Json → Option String
  | .null => none
  | .bool b => some (toString b)
  | .number n => some n.text
  | .string s => some s
  | .array items => some (Text.join "," (wires items))
  | .object members => some (text (.object members))

/-- The texts of those items that have one. -/
def wires : List Json → List String
  | [] => []
  | v :: rest =>
    match wire? v with
    | some s => s :: wires rest
    | none => wires rest

end

end Json

namespace Argument

instance : Inhabited Argument := ⟨.null⟩

/-- Whether an argument is absent. -/
def isNull : Argument → Bool
  | .null => true
  | .json .null => true
  | _ => false

mutual

/-- The text of an argument on the wire; none for an absent one. -/
def wire? : Argument → Option String
  | .null => none
  | .bool b => some (toString b)
  | .integer n => some (toString n)
  | .float x => some (Decimal.render Decimal.wire x)
  | .text s => some s
  | .name s => some s
  | .uri u => some u.text
  | .json v => v.wire?
  | .list items => some (Text.join "," (wires items))

/-- The texts of those items that have one. -/
def wires : List Argument → List String
  | [] => []
  | a :: rest =>
    match wire? a with
    | some s => s :: wires rest
    | none => wires rest

end

mutual

/-- The JSON value of an argument. -/
def toJson : Argument → Json
  | .null => .null
  | .bool b => .bool b
  | .integer n => Json.ofInt n
  | .float x => Json.ofFloat x
  | .text s => .string s
  | .name s => .string s
  | .uri u => .string u.text
  | .json v => v
  | .list items => .array (toJsons items)

/-- The JSON values of arguments. -/
def toJsons : List Argument → List Json
  | [] => []
  | a :: rest => a.toJson :: toJsons rest

end

/-! ## Structured arguments -/

/-- The member name that a key makes: texts as they are, whole numbers and
truth values by their text. -/
def memberName? : Shape.Content → Option String
  | .text s => some s
  | .integer n => some (toString n)
  | .flag b => some (toString b)
  | _ => none

mutual

/-- The JSON value of a structured value; none when a key has no text. -/
def jsonOf? : Shape.Content → Option Json
  | .empty => some .null
  | .flag b => some (.bool b)
  | .integer n => some (Json.ofInt n)
  | .float x => some (Json.ofFloat x)
  | .text s => some (.string s)
  | .list items => (jsonsOf? items).map .array
  | .map entries => (membersOf? entries).map fun members => .object (Json.collect members)

/-- The JSON values of structured values. -/
def jsonsOf? : List Shape.Content → Option (List Json)
  | [] => some []
  | c :: rest => do
    let v ← jsonOf? c
    let others ← jsonsOf? rest
    return v :: others

/-- The members that the entries of a table make. -/
def membersOf? : List (Shape.Content × Shape.Content) → Option (List (String × Json))
  | [] => some []
  | (key, c) :: rest => do
    let name ← memberName? key
    let v ← jsonOf? c
    let others ← membersOf? rest
    return (name, v) :: others

end

/-- A structured value as an argument. -/
def ofContent (c : Shape.Content) : Except Fault Argument :=
  match jsonOf? c with
  | some v => .ok (.json v)
  | none =>
    .error (.binding "failed to serialize argument: key must be a string"
      { Context.empty with source := some "arg_value" })

end Argument

end RestCall

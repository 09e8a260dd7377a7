import RestCall.Json.Failure
import RestCall.Json.Value
import RestCall.Shape.Source
/-!
# RestCall — JSON values as documents

Records are read from a value already at hand. There are no places to
report; otherwise the rules are those of JSON texts, a list that is too
long being refused by its length.
-/

namespace RestCall

namespace Json

open Shape (Misfit Found IntegerKind Record Content)

/-- A reading of a value. -/
abbrev Lens (α : Type) := ReaderT Json (Except Misfit) α

/-- What a value is when it was not wanted. -/
def found : Json → Found
  | .null => .empty
  | .bool b => .flag b
  | .number (.integer n) => .integer n
  | .number (.float x) => .float x
  | .string s => .text s
  | .array _ => .sequence
  | .object _ => .map

mutual

/-- A value as a document holds it. -/
def content : Json → Content
  | .null => .empty
  | .bool b => .flag b
  | .number (.integer n) => .integer n
  | .number (.float x) => .float x
  | .string s => .text s
  | .array items => .list (contents items)
  | .object members => .map (entries members)

/-- The items of an array as a document holds them. -/
def contents : List Json → List Content
  | [] => []
  | v :: rest => v.content :: contents rest

/-- The members of an object as a document holds them. -/
def entries : List (String × Json) → List (Content × Content)
  | [] => []
  | (k, v) :: rest => (.text k, v.content) :: entries rest

end

namespace Lens

/-- Refuses a value of the wrong type. -/
def unexpected {α : Type} (expected : String) : Lens α := fun v =>
  .error (.wrongType v.found expected)

/-- A string. -/
def textValue : Lens String := fun v =>
  match v with
  | .string s => .ok s
  | _ => unexpected "a string" v

/-- A truth value. -/
def flagValue : Lens Bool := fun v =>
  match v with
  | .bool b => .ok b
  | _ => unexpected "a boolean" v

/-- A whole number of a kind. -/
def integerValue (kind : IntegerKind) : Lens Int := fun v =>
  match v with
  | .number (.integer n) => kind.admit n
  | _ => unexpected kind.name v

/-- A value or `null`. -/
def optionalValue {α : Type} (read : Lens α) : Lens (Option α) := fun v =>
  match v with
  | .null => .ok none
  | _ => some <$> read v

/-- A list of values. -/
def listValue {α : Type} (read : Lens α) : Lens (List α) := fun v =>
  match v with
  | .array items => items.mapM read
  | _ => unexpected "a sequence" v

/-- An object as a table of values. -/
def tableValue {α : Type} (read : Lens α) : Lens (List (String × α)) := fun v =>
  match v with
  | .object members => members.mapM fun (k, v) => (fun a => (k, a)) <$> read v
  | _ => unexpected "a map" v

/-- The fields of a record in their order, as far as the list goes; the
position of the first is given. What is left of the list comes back. -/
def fieldsInOrder {σ : Type} (r : Record Lens σ) :
    List (Shape.Field Lens σ) → Nat → List Json → σ → Except Misfit (σ × List Json)
  | [], _, items, s => .ok (s, items)
  | f :: rest, index, v :: items, s => do
    let s' ← f.read s v
    fieldsInOrder r rest (index + 1) items s'
  | f :: rest, index, [], s =>
    if f.required then .error (.wrongLength index r.lengthTitle)
    else fieldsInOrder r rest (index + 1) [] s

/-- The members of a record given as an object. -/
def fieldsByName {σ : Type} (r : Record Lens σ) :
    List (String × Json) → List String → σ → Except Misfit (List String × σ)
  | [], seen, s => .ok (seen, s)
  | (k, v) :: rest, seen, s =>
    match r.field? k with
    | none => fieldsByName r rest seen s
    | some f =>
      if seen.contains k then .error (.duplicateField k)
      else do
        let s' ← f.read s v
        fieldsByName r rest (k :: seen) s'

/-- A record. -/
def recordValue {σ : Type} (r : Record Lens σ) : Lens σ := fun v =>
  match v with
  | .array items => do
    let (s, left) ← fieldsInOrder r r.fields 0 items r.start
    if left.isEmpty then return s
    else throw (.wrongLength items.length "fewer elements in array")
  | .object members => do
    let (seen, s) ← fieldsByName r members [] r.start
    match r.missing? seen with
    | some name => throw (.missingField name)
    | none => return s
  | _ => unexpected r.title v

end Lens

/-- JSON values are documents. -/
instance : Shape.Source Lens where
  text := Lens.textValue
  flag := Lens.flagValue
  integer := Lens.integerValue
  optional := Lens.optionalValue
  list := Lens.listValue
  record := Lens.recordValue
  content := fun v => .ok v.content
  refuse := fun m _ => .error m

end Json

end RestCall

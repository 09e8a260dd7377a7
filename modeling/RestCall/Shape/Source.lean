import RestCall.Shape.Misfit
import RestCall.Text.Numeral
/-!
# RestCall — documents that records are read from

A record is described once, by its fields and what each of them holds, and
read from every kind of document: a JSON text, a JSON value, a YAML text.
The class `Source` lists what a document offers; a description written
over it is read the same way from all of them, up to where a failure is
placed and how it is worded.
-/

namespace RestCall

namespace Shape

/-- A kind of whole number: its name and its bounds. -/
structure IntegerKind where
  name : String
  low : Int
  high : Int

/-- Positions and counts, of 64 bits. -/
def IntegerKind.index : IntegerKind := ⟨"usize", 0, 18446744073709551615⟩

/-- Natural numbers of 64 bits. -/
def IntegerKind.natural64 : IntegerKind := ⟨"u64", 0, 18446744073709551615⟩

/-- Natural numbers of 32 bits. -/
def IntegerKind.natural32 : IntegerKind := ⟨"u32", 0, 4294967295⟩

/-- Natural numbers of 8 bits. -/
def IntegerKind.natural8 : IntegerKind := ⟨"u8", 0, 255⟩

/-- Integers of 64 bits. -/
def IntegerKind.integer64 : IntegerKind := ⟨"i64", -9223372036854775808, 9223372036854775807⟩

/-- Whether an integer is of the kind. -/
def IntegerKind.holds (kind : IntegerKind) (n : Int) : Bool := kind.low ≤ n && n ≤ kind.high

/-- An integer of the kind, or why it is none. -/
def IntegerKind.admit (kind : IntegerKind) (n : Int) : Except Misfit Int :=
  if kind.holds n then .ok n
  else .error (.wrongValue (.integer n) kind.name)

/-- A field of a record under construction `σ`: reading it changes the
record. A field that is not required keeps what the record starts with. -/
structure Field (m : Type → Type) (σ : Type) where
  name : String
  required : Bool
  read : σ → m σ

/-- A description of a record: its name, what it starts with, and its
fields in their order. -/
structure Record (m : Type → Type) (σ : Type) where
  name : String
  start : σ
  fields : List (Field m σ)

/-- The name of a record in messages. -/
def Record.title {m : Type → Type} {σ : Type} (r : Record m σ) : String := "struct " ++ r.name

/-- The field that a name belongs to; other names are skipped. -/
def Record.field? {m : Type → Type} {σ : Type} (r : Record m σ) (name : String) :
    Option (Field m σ) :=
  r.fields.find? fun f => f.name == name

/-- The first required field that has not been read. -/
def Record.missing? {m : Type → Type} {σ : Type} (r : Record m σ) (seen : List String) :
    Option String :=
  (r.fields.find? fun f => f.required && !seen.contains f.name).map Field.name

/-- How a record given as a list is described. -/
def Record.lengthTitle {m : Type → Type} {σ : Type} (r : Record m σ) : String :=
  let n := r.fields.length
  s!"{r.title} with {n} " ++ (if n = 1 then "element" else "elements")

/-- Any value at all, as a document holds it: the keys of a map may be any
values, and may occur repeatedly. -/
inductive Content where
  | empty
  | flag (b : Bool)
  | integer (n : Int)
  | float (x : Float)
  | text (s : String)
  | list (items : List Content)
  | map (entries : List (Content × Content))

instance : Inhabited Content := ⟨.empty⟩

/-- What a document offers to the description of a record. -/
class Source (m : Type → Type) extends Monad m where
  /-- A text. -/
  text : m String
  /-- A truth value. -/
  flag : m Bool
  /-- A whole number of a kind. -/
  integer : IntegerKind → m Int
  /-- A value that may be the empty one instead. -/
  optional {α : Type} : m α → m (Option α)
  /-- A list of values. -/
  list {α : Type} : m α → m (List α)
  /-- A record. -/
  record {σ : Type} : Record m σ → m σ
  /-- Any value. -/
  content : m Content
  /-- Refuses the value. -/
  refuse {α : Type} : Misfit → m α

variable {m : Type → Type} [Source m]

/-- A natural number of a kind. -/
def natural (kind : IntegerKind) : m Nat := do return (← Source.integer kind).toNat

/-- A required field. -/
def required {σ α : Type} (name : String) (read : m α) (put : σ → α → σ) : Field m σ :=
  ⟨name, true, fun s => do return put s (← read)⟩

/-- A field that may be left out. -/
def optional {σ α : Type} (name : String) (read : m α) (put : σ → α → σ) : Field m σ :=
  ⟨name, false, fun s => do return put s (← read)⟩

end Shape

end RestCall

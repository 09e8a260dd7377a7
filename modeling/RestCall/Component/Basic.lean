import RestCall.Fault.Declaration
import RestCall.Text.Order
import RestCall.Text.Quoted
/-!
# RestCall — named components

Serializers, filters, parsers and failure mappers are referred to by name.
A family holds the components of one kind; registering a name again
replaces its component.
-/

namespace RestCall

/-- The components of one kind under their names. -/
structure Family (α : Type) where
  kind : String
  entries : List (String × α)

namespace Family

variable {α : Type}

/-- A family without components. -/
def empty (kind : String) : Family α := ⟨kind, []⟩

/-- Entries with one more, which replaces an earlier one of its name. -/
def put (id : String) (component : α) : List (String × α) → List (String × α)
  | [] => [(id, component)]
  | (k, v) :: rest =>
    if k = id then (id, component) :: rest else (k, v) :: put id component rest

/-- A family with one more component. -/
def register (f : Family α) (id : String) (component : α) : Family α :=
  { f with entries := put id component f.entries }

/-- The component of a name. -/
def find? (f : Family α) (id : String) : Option α := (f.entries.find? fun e => e.1 == id).map (·.2)

/-- Whether a name is there. -/
def contains (f : Family α) (id : String) : Bool := (f.find? id).isSome

/-- How many names there are. -/
def size (f : Family α) : Nat := f.entries.length

/-- The names in order. -/
def ids (f : Family α) : List String := Text.sorted (f.entries.map (·.1))

/-- The component of a name that an operation refers to, or the fault of its
absence, which lists the names there are. -/
def resolve (f : Family α) (id operation : String) : Except DeclarationFault α :=
  match f.find? id with
  | some component => .ok component
  | none =>
    .error (.unknownComponent f.kind id operation
      (some (s!"registered {f.kind}s: " ++ Text.join ", " f.ids)))

/-- The display of a family: its kind and its names. -/
def display (f : Family α) : String :=
  "ComponentRegistry \x7b kind: " ++ Text.quoted f.kind ++ ", ids: [" ++
    Text.join ", " (f.ids.map Text.quoted) ++ "] \x7d"

end Family

end RestCall

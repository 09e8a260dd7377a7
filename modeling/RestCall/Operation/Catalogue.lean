import RestCall.Operation.Basic
/-!
# RestCall — catalogues of operations

A catalogue holds operations under their ids, each id once, in the order
in which they were entered. Entering an id twice is refused; what was
entered before stays. Looking up an id that is not there suggests a near
one.
-/

namespace RestCall

/-- Operations under their ids. -/
structure Catalogue where
  operations : List Operation
deriving Repr, DecidableEq

namespace Catalogue

/-- No operations. -/
def empty : Catalogue := ⟨[]⟩

/-- The ids in order of entry. -/
def ids (c : Catalogue) : List String := c.operations.map Operation.id

/-- Whether an id is there. -/
def contains (c : Catalogue) (id : String) : Bool := c.operations.any fun o => o.id == id

/-- How many operations there are. -/
def size (c : Catalogue) : Nat := c.operations.length

/-- The operation with an id. -/
def find? (c : Catalogue) (id : String) : Option Operation :=
  c.operations.find? fun o => o.id == id

/-- A catalogue with one more operation. -/
def register (c : Catalogue) (o : Operation) : Except DeclarationFault Catalogue :=
  if c.contains o.id then .error (.duplicateOperation o.id)
  else .ok ⟨c.operations ++ [o]⟩

/-- Operations entered one after another up to the first that is refused:
the catalogue reached, and the refusal. -/
def registerUpTo (c : Catalogue) : List Operation → Catalogue × Option DeclarationFault
  | [] => (c, none)
  | o :: rest =>
    match c.register o with
    | .ok c' => registerUpTo c' rest
    | .error fault => (c, some fault)

/-- Operations entered one after another, or none of them. -/
def registerAll (c : Catalogue) (operations : List Operation) :
    Except DeclarationFault Catalogue :=
  match c.registerUpTo operations with
  | (c', none) => .ok c'
  | (_, some fault) => .error fault

/-- A catalogue of the given operations. -/
def ofList (operations : List Operation) : Except DeclarationFault Catalogue :=
  empty.registerAll operations

/-- The operations of another catalogue entered into this one, in its
order. When one of the ids is taken, those before it have been entered. -/
def extend (c other : Catalogue) : Catalogue × Option DeclarationFault :=
  c.registerUpTo other.operations

/-! ## Looking up -/

/-- The part of an id before its first dot. -/
def family (id : String) : List Char := id.toList.takeWhile (· != '.')

/-- Whether two lengths differ by at most two. -/
def isNear (m n : Nat) : Bool := m ≤ n + 2 && n ≤ m + 2

/-- The least of some strings. -/
def least? (ids : List String) : Option String :=
  ids.foldl
    (fun best id => match best with
      | none => some id
      | some b => if id < b then some id else some b)
    none

/-- The id suggested for one that is not there: of those that begin with
its family and are of nearly its length, the least. -/
def closest? (c : Catalogue) (id : String) : Option String :=
  least? (c.ids.filter fun known =>
    (family id).isPrefixOf known.toList && isNear known.utf8ByteSize id.utf8ByteSize)

/-- The operation with an id, or the fault of its absence. -/
def describe (c : Catalogue) (id : String) : Except DeclarationFault Operation :=
  match c.find? id with
  | some o => .ok o
  | none =>
    .error (.unknownOperation id ((c.closest? id).map fun near => s!"did you mean '{near}'?"))

end Catalogue

end RestCall

import RestCall.Filter.Basic
/-!
# RestCall — chains of filters

The filters of an operation are applied in the order in which it names
them, each to what the one before made of the request. The first that
fails ends the chain, and its fault names the operation.
-/

namespace RestCall

/-- Filters in order, each under its name. -/
structure FilterChain where
  filters : List (String × Filter)

namespace FilterChain

/-- The chain of the named filters of a family, or the fault of the first
name that is not there. -/
def resolve (family : Family Filter) (operation : String) (ids : List String) :
    Except DeclarationFault FilterChain := do
  let filters ← ids.mapM fun id => do
    let filter ← family.resolve id operation
    return (id, filter)
  return ⟨filters⟩

/-- A chain with one more filter at the end. -/
def push (c : FilterChain) (id : String) (filter : Filter) : FilterChain :=
  ⟨c.filters ++ [(id, filter)]⟩

/-- The names of the filters in order. -/
def ids (c : FilterChain) : List String := c.filters.map (·.1)

/-- How many filters there are. -/
def size (c : FilterChain) : Nat := c.filters.length

/-- A fault that names the operation, when it is one of a filter and names
none. -/
def located (operation : String) : Fault → Fault
  | .filter message c => .filter message (c.orOperation operation)
  | fault => fault

/-- A request after the filters. -/
def applyAll (m : Moment) : List (String × Filter) → Request → Except Fault Request
  | [], r => .ok r
  | (_, filter) :: rest, r => do
    let r' ← (filter.apply m r).mapError (located r.operation)
    applyAll m rest r'

/-- A request after a chain. -/
def apply (c : FilterChain) (m : Moment) (r : Request) : Except Fault Request :=
  applyAll m c.filters r

end FilterChain

end RestCall

import RestCall.Json.Path
import RestCall.Operation.Basic
import RestCall.Response.Mapper
import RestCall.Response.Parser
/-!
# RestCall — resolving outcomes

The outcome of an exchange is a response or a fault. A successful response
is parsed and unwrapped as its operation says. Any other status is a
fault, and every fault but cancellation is offered to the operation's
mapper, if it names one.
-/

namespace RestCall

/-- What an exchange led to. -/
abbrev Outcome := Except Fault Response

/-- The parsers and mappers that operations may name. -/
structure Resolver where
  parsers : Family Parser
  mappers : Family Mapper

namespace Resolver

/-- The resolver of the built-in parsers and mappers. -/
def builtin : Resolver := ⟨Parser.builtin, Mapper.builtin⟩

/-- A component of an operation, or the fault of its absence. -/
def component {α : Type} (family : Family α) (id : String) (o : Operation) : Except Fault α :=
  (family.resolve id o.id).mapError .declaration

/-- Checks that an operation's parser and mapper are there. -/
def validate (r : Resolver) (o : Operation) : Except Fault Unit := do
  let _ ← component r.parsers o.parser o
  match o.mapper with
  | none => return ()
  | some id => do
    let _ ← component r.mappers id o
    return ()

/-- A fault offered to the operation's mapper. -/
def mapFailure (r : Resolver) (o : Operation) (fault : Fault) : Except Fault Resolution :=
  match o.mapper with
  | none => .error fault
  | some id => do
    let mapper ← component r.mappers id o
    mapper.map fault

/-- The part of a value that is the result. -/
def unwrapped (v : Json) : Unwrapping → Option Json
  | .path path => v.at? path
  | .depth depth => some (v.descend depth)

/-- A result after unwrapping: what is not there, or null, is absence. -/
def unwrap (unwrapping : Option Unwrapping) : Resolution → Resolution
  | .value v =>
    match unwrapping with
    | none => .value v
    | some u =>
      match unwrapped v u with
      | none => .absent
      | some .null => .absent
      | some inner => .value inner
  | other => other

/-- A fault that names the operation, when it is one of a parser and names
none. -/
def located (operation : String) : Fault → Fault
  | .parse message c => .parse message (c.orOperation operation)
  | fault => fault

/-- The fault of a response without success. -/
def refused (o : Operation) (response : Response) : Fault :=
  .response o.id response.status response.text

/-- The result of an outcome. -/
def resolve (r : Resolver) (o : Operation) : Outcome → Except Fault Resolution
  | .error .cancelled => .error .cancelled
  | .error fault => r.mapFailure o fault
  | .ok response =>
    if response.isSuccess then do
      let parser ← component r.parsers o.parser o
      let parsed ← (parser.parse response).mapError (located o.id)
      return unwrap o.unwrapping parsed
    else r.mapFailure o (refused o response)

end Resolver

end RestCall

import RestCall.Collection.Distinct
import RestCall.Operation.Basic
/-!
# RestCall — declaring operations

A declaration is a list of clauses, each of which adds to what is known of
the operation or replaces it. All checks are made at the end: the id, the
template, the names of slots that are pointed elsewhere, and the keys of
query parameters and headers, in this order.
-/

namespace RestCall

/-- A clause of a declaration. -/
inductive Clause where
  | path (template : String)
  | pathArgument (name : String) (index : Nat)
  | query (parameter : Parameter)
  | header (parameter : Parameter)
  | accept (mediaType : String)
  | payload (spec : PayloadSpec)
  | endpointArgument (index : Nat)
  | parser (id : String)
  | mapper (id : String)
  | filters (ids : List String)
  | unwrap (unwrapping : Unwrapping)
  | literal (characters : List Char)
  | options (taken : Bool)
deriving Repr, DecidableEq

/-- What is known of an operation before it is checked. -/
structure Draft where
  id : String
  method : String
  path : String
  pathArguments : List (String × Nat)
  query : List Parameter
  headers : List Parameter
  accept : Option String
  payload : Option PayloadSpec
  endpointArgument : Option Nat
  parser : Option String
  mapper : Option String
  filters : List String
  unwrapping : Option Unwrapping
  literal : List Char
  takesOptions : Bool
deriving Repr, DecidableEq

namespace Draft

/-- A draft without clauses. -/
def start (id method : String) : Draft :=
  { id, method, path := "", pathArguments := [], query := [], headers := [], accept := none,
    payload := none, endpointArgument := none, parser := none, mapper := none, filters := [],
    unwrapping := none, literal := [], takesOptions := false }

/-- A draft with one more clause. -/
def add (d : Draft) : Clause → Draft
  | .path template => { d with path := template }
  | .pathArgument name index => { d with pathArguments := d.pathArguments ++ [(name, index)] }
  | .query p => { d with query := d.query ++ [p] }
  | .header p => { d with headers := d.headers ++ [p] }
  | .accept mediaType => { d with accept := some mediaType }
  | .payload spec => { d with payload := some spec }
  | .endpointArgument index => { d with endpointArgument := some index }
  | .parser id => { d with parser := some id }
  | .mapper id => { d with mapper := some id }
  | .filters ids => { d with filters := d.filters ++ ids }
  | .unwrap unwrapping => { d with unwrapping := some unwrapping }
  | .literal characters => { d with literal := characters.foldl Collection.addOnce d.literal }
  | .options taken => { d with takesOptions := taken }

/-- The slots of a template pointed at arguments, one clause after another;
a name that the template lacks is refused. -/
def rebound (id text : String) : Template → List (String × Nat) → Except DeclarationFault Template
  | t, [] => .ok t
  | t, (name, index) :: rest =>
    if t.hasSlot name then rebound id text (t.rebind name index) rest
    else .error (.invalid id s!"path parameter '{name}' does not appear in '{text}'")

/-- The parser of an operation that names none: the payload is released. -/
def defaultParser : String := "release_payload"

/-- The operation of a draft. -/
def finish (d : Draft) : Except DeclarationFault Operation :=
  if Text.isBlankText d.id then .error (.invalid d.id "operation id must not be empty")
  else do
    let template ← Template.declare d.path
    let path ← rebound d.id d.path template d.pathArguments
    if (d.query ++ d.headers).any fun p => p.key.isEmpty then
      throw (.invalid d.id "parameter keys must not be empty")
    return {
      id := d.id
      method := d.method
      path := path
      query := d.query
      headers := d.headers
      accept := d.accept
      payload := d.payload
      endpointArgument := d.endpointArgument
      parser := d.parser.getD defaultParser
      mapper := d.mapper
      filters := d.filters
      unwrapping := d.unwrapping
      literal := d.literal
      takesOptions := d.takesOptions }

end Draft

namespace Operation

/-- The operation that clauses declare. -/
def declare (id method : String) (clauses : List Clause) : Except DeclarationFault Operation :=
  (clauses.foldl Draft.add (Draft.start id method)).finish

end Operation

end RestCall

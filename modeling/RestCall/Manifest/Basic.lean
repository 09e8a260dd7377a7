import RestCall.Operation.Declaration
import RestCall.Text.Case
/-!
# RestCall — manifests

A manifest declares the operations of one provider, and settings that all
of them share: filters, query parameters, headers, the accepted media type
and the characters left unescaped. Shared parameters come before an
operation's own, an operation's own settings take precedence over shared
ones, and its filters are added to the shared ones.
-/

namespace RestCall

namespace Manifest

/-- A parameter as a manifest writes it: with a value or an argument. -/
structure ParameterEntry where
  key : String
  value : Option String
  argument : Option Nat
  isOptional : Bool
  allowed : Option (List String)
deriving Repr, DecidableEq

/-- A slot of a path that is pointed at an argument. -/
structure PathEntry where
  name : String
  argument : Nat
deriving Repr, DecidableEq

/-- A payload as a manifest writes it: from an argument or from fields. -/
structure PayloadEntry where
  argument : Option Nat
  fields : List ParameterEntry
  serializer : String
  contentType : String
deriving Repr, DecidableEq

/-- Settings shared by all operations. -/
structure Shared where
  filters : List String
  query : List ParameterEntry
  headers : List ParameterEntry
  accept : Option String
  literal : Option String
deriving Repr, DecidableEq

/-- An operation as a manifest writes it. -/
structure OperationEntry where
  id : String
  method : String
  path : String
  pathArguments : List PathEntry
  query : List ParameterEntry
  headers : List ParameterEntry
  accept : Option String
  payload : Option PayloadEntry
  endpointArgument : Option Nat
  parser : Option String
  mapper : Option String
  filters : List String
  unwrapping : Option Unwrapping
  literal : Option String
  takesOptions : Bool
deriving Repr, DecidableEq

end Manifest

/-- A manifest. -/
structure Manifest where
  id : String
  name : Option String
  endpoint : Option String
  shared : Manifest.Shared
  operations : List Manifest.OperationEntry
deriving Repr, DecidableEq

namespace Manifest

/-- The parameter of an entry: exactly one of value and argument is given. -/
def ParameterEntry.parameter (operation : String) (e : ParameterEntry) :
    Except DeclarationFault Parameter :=
  match e.value, e.argument with
  | some value, none => .ok ⟨e.key, .fixed value⟩
  | none, some index => .ok ⟨e.key, .argument index (!e.isOptional) e.allowed⟩
  | _, _ =>
    .error (.invalid operation s!"parameter '{e.key}' needs exactly one of 'value' or 'arg'")

/-- The payload of an entry: from an argument, or from fields. -/
def PayloadEntry.spec (operation : String) (e : PayloadEntry) :
    Except DeclarationFault PayloadSpec := do
  let source ← match e.argument with
    | some index =>
      if e.fields.isEmpty then pure (PayloadSource.argument index)
      else throw (.invalid operation "payload declares both 'arg' and 'fields'")
    | none => do
      let fields ← e.fields.mapM (ParameterEntry.parameter operation)
      pure (PayloadSource.fields fields)
  return ⟨source, e.serializer, e.contentType⟩

/-- The method of an entry, in upper case. -/
def OperationEntry.methodName (e : OperationEntry) : Except DeclarationFault String :=
  match Text.upperToAscii e.method with
  | some method =>
    if Operation.isMethod method then .ok method
    else .error (.invalid e.id s!"unsupported HTTP method '{e.method}'")
  | none => .error (.invalid e.id s!"unsupported HTTP method '{e.method}'")

/-- The filters of an operation: the shared ones, then its own that are new. -/
def mergedFilters (shared own : List String) : List String := own.foldl Collection.addOnce shared

/-- A clause that is made when a setting is there. -/
def clause? {α : Type} (make : α → Clause) : Option α → List Clause
  | none => []
  | some value => [make value]

/-- The clauses of an entry under shared settings. -/
def OperationEntry.clauses (shared : Shared) (e : OperationEntry) :
    Except DeclarationFault (List Clause) := do
  let query ← (shared.query ++ e.query).mapM (ParameterEntry.parameter e.id)
  let headers ← (shared.headers ++ e.headers).mapM (ParameterEntry.parameter e.id)
  let payload ← e.payload.mapM (PayloadEntry.spec e.id)
  return [.path e.path] ++
    e.pathArguments.map (fun p => .pathArgument p.name p.argument) ++
    query.map .query ++
    headers.map .header ++
    clause? .accept (e.accept.or shared.accept) ++
    clause? .payload payload ++
    clause? .endpointArgument e.endpointArgument ++
    clause? .parser e.parser ++
    clause? .mapper e.mapper ++
    [.filters (mergedFilters shared.filters e.filters)] ++
    clause? .unwrap e.unwrapping ++
    clause? (fun s => .literal s.toList) (e.literal.or shared.literal) ++
    [.options e.takesOptions]

/-- The operation of an entry under shared settings. -/
def OperationEntry.operation (shared : Shared) (e : OperationEntry) :
    Except DeclarationFault Operation := do
  let method ← e.methodName
  Operation.declare e.id method (← e.clauses shared)

/-- The operations of a manifest, in order, or the first fault of one. -/
def declared (m : Manifest) : Except DeclarationFault (List Operation) :=
  m.operations.mapM (OperationEntry.operation m.shared)

end Manifest

end RestCall

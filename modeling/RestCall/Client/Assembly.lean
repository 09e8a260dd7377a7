import RestCall.Client.Basic
import RestCall.Client.Settings
import RestCall.Manifest.Loading
/-!
# RestCall — putting a client together

A client is built from manifests, further operations, components and
settings. What could go wrong in every call is found here: ids that occur
twice, components that are not there, an endpoint that is missing or no
address. An endpoint given for the client comes before that of its
settings, and that before those of the manifests.
-/

namespace RestCall

/-- What a client is built from. `hasTransport` tells that a transport is
given; otherwise one is made from the settings. -/
structure Assembly where
  manifests : List Manifest
  operations : List Operation
  endpoint : Option String
  settings : Settings
  serializers : Family Serializer
  filters : Family Filter
  resolver : Resolver
  retry : Option RetryPolicy
  hasTransport : Bool

namespace Assembly

/-- An assembly of the built-in components. -/
def start : Assembly :=
  { manifests := [], operations := [], endpoint := none, settings := .standard,
    serializers := Serializer.builtin, filters := Filter.builtin, resolver := .builtin,
    retry := none, hasTransport := true }

/-- A fault of a declaration as one of a call. -/
def declared {α : Type} (r : Except DeclarationFault α) : Except Fault α := r.mapError .declaration

/-- A catalogue with the operations of manifests, one after another. -/
def withManifests : Catalogue → List Manifest → Except DeclarationFault Catalogue
  | c, [] => .ok c
  | c, m :: rest => do
    let own ← m.catalogue
    match c.extend own with
    | (c', none) => withManifests c' rest
    | (_, some fault) => .error fault

/-- The operations of the client. -/
def catalogue (a : Assembly) : Except DeclarationFault Catalogue := do
  (← withManifests .empty a.manifests).registerAll a.operations

/-! ## The endpoint -/

/-- The source of the faults found here. -/
def source : Context := { Context.empty with source := some "client_builder" }

/-- The endpoint that is given, if any. -/
def givenEndpoint (a : Assembly) (s : Settings) : Option String :=
  (a.endpoint.or s.endpoint).or (a.manifests.findSome? Manifest.endpoint)

/-- The fault of a missing endpoint. -/
def noEndpoint (o : Operation) : Fault :=
  .configuration "no endpoint configured"
    { source with
      operation := some o.id
      details := some "set one on the builder, the config or the manifest" }

/-- The endpoint of the client. It may be missing when every operation
takes its own. -/
def checkedEndpoint (a : Assembly) (s : Settings) (c : Catalogue) : Except Fault String :=
  match a.givenEndpoint s with
  | none =>
    match c.operations.find? fun o => o.endpointArgument.isNone with
    | some o => .error (noEndpoint o)
    | none => .ok ""
  | some endpoint =>
    if endpoint.isEmpty then .ok endpoint
    else match Url.parse endpoint with
      | .ok _ => .ok endpoint
      | .error flaw =>
        .error (.configuration s!"invalid endpoint '{endpoint}': {flaw.describe}" source)

/-! ## Components -/

/-- Checks that the components of an operation are there. -/
def checkOperation (a : Assembly) (o : Operation) : Except Fault Unit := do
  a.resolver.validate o
  let _ ← declared (FilterChain.resolve a.filters o.id o.filters)
  match o.payload with
  | none => return ()
  | some p => do
    let _ ← declared (a.serializers.resolve p.serializer o.id)
    return ()

/-- The policy of the client. -/
def policy (a : Assembly) (s : Settings) : RetryPolicy :=
  a.retry.getD <|
    match s.maxAttempts with
    | some n => RetryPolicy.standard.withMaxAttempts n
    | none => .standard

/-- The client, or why there is none. -/
def build (a : Assembly) (env : Environment) : Except Fault Client := do
  let settings := a.settings.override env
  let catalogue ← declared a.catalogue
  let endpoint ← a.checkedEndpoint settings catalogue
  catalogue.operations.forM a.checkOperation
  if !a.hasTransport then
    settings.transport.check.mapError TransportSettings.Flaw.fault
  return {
    catalogue
    endpoint
    serializers := a.serializers
    filters := a.filters
    resolver := a.resolver
    retry := a.policy settings }

end Assembly

end RestCall

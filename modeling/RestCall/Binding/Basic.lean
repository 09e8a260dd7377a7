import RestCall.Binding.Options
import RestCall.Operation.Basic
import RestCall.Payload.Serializer
import RestCall.Url.Parser
/-!
# RestCall — binding

Binding turns an operation, its arguments and options into a request, and
reads nothing else. It proceeds from the endpoint over path, query and
headers to the payload, and ends at the first thing that is refused.
-/

namespace RestCall

namespace Binding

/-- Where a parameter belongs. -/
inductive Part where
  | query
  | header
  | payload
deriving Repr, DecidableEq

/-- The name of a part. -/
def Part.name : Part → String
  | .query => "query"
  | .header => "header"
  | .payload => "payload"

/-- Why a call cannot be bound. -/
inductive Refusal where
  | optionsNotTaken
  | endpointMissing (index : Nat)
  | endpointNull (index : Nat)
  | endpointRelative (index : Nat) (flaw : Url.Flaw)
  | endpointNotBare (index : Nat) (uri : String)
  | emptySlot (name : String) (index : Nat)
  | nullArgument (part : Part) (key : String) (index : Nat)
  | notAllowed (part : Part) (key text : String) (allowed : List String)
  | noPayload
  | payloadNotFields (index : Nat)
  | payloadNull (index : Nat)
  | component (fault : Fault)
deriving Repr, DecidableEq

namespace Refusal

/-- The wording of a refusal. -/
def describe : Refusal → String
  | .optionsNotTaken => "operation does not accept options"
  | .endpointMissing _ => "missing endpoint argument"
  | .endpointNull _ => "endpoint argument is null"
  | .endpointRelative _ flaw =>
    "endpoint argument is not an absolute URI: " ++ flaw.describe
  | .endpointNotBare _ uri =>
    s!"endpoint argument '{uri}' must not carry a query or fragment"
  | .emptySlot name _ => "no value for path placeholder '\x7b" ++ name ++ "\x7d'"
  | .nullArgument _ key index => s!"required argument {index} for '{key}' is null"
  | .notAllowed _ _ text allowed =>
    s!"malformed enum argument '{text}', expected one of: " ++ Text.join ", " allowed
  | .noPayload => "operation declares no payload for option fields"
  | .payloadNotFields _ => "option payload fields need a field payload"
  | .payloadNull _ => "payload argument is null"
  | .component fault => fault.describe

/-- What is refused: an argument by its position, or a parameter. -/
def field? : Refusal → Option String
  | .optionsNotTaken => none
  | .endpointMissing index => some s!"args[{index}]"
  | .endpointNull index => some s!"args[{index}]"
  | .endpointRelative index _ => some s!"args[{index}]"
  | .endpointNotBare index _ => some s!"args[{index}]"
  | .emptySlot _ index => some s!"args[{index}]"
  | .nullArgument part key _ => some (part.name ++ "." ++ key)
  | .notAllowed part key _ _ => some (part.name ++ "." ++ key)
  | .noPayload => none
  | .payloadNotFields index => some s!"args[{index}]"
  | .payloadNull index => some s!"args[{index}]"
  | .component _ => none

/-- The fault of a refusal. A component's fault stays what it is, but a
binding fault that names no operation takes this one. -/
def fault (operation : String) : Refusal → Fault
  | .component (.binding message context) => .binding message (context.orOperation operation)
  | .component fault => fault
  | refusal =>
    .binding refusal.describe ⟨some operation, refusal.field?, none, some "binder"⟩

end Refusal

/-! ## Endpoint -/

/-- A text without trailing slashes. -/
def trimSlashes (s : String) : String :=
  String.ofList (Text.trimEndOf (· == '/') s.toList)

/-- The URL that an endpoint argument stands for. -/
def endpointUrl (index : Nat) : Option Argument → Except Refusal Url
  | none => .error (.endpointMissing index)
  | some (.uri u) => .ok u
  | some a =>
    match a.wire? with
    | none => .error (.endpointNull index)
    | some text => (Url.parse text).mapError (.endpointRelative index)

/-- What the path is appended to: the base endpoint, or the one that an
argument gives, without trailing slashes. -/
def base (endpoint : String) (o : Operation) (args : List Argument) : Except Refusal String :=
  match o.endpointArgument with
  | none => .ok (trimSlashes endpoint)
  | some index => do
    let u ← endpointUrl index args[index]?
    if u.isBare then return trimSlashes u.text
    else throw (.endpointNotBare index u.text)

/-! ## Path -/

/-- One part of a path, filled in. -/
def tokenText (literal : List Char) (args : List Argument) : Token → Except Refusal String
  | .literal text => .ok text
  | .slot name index =>
    match args[index]?.bind Argument.wire? with
    | some value => .ok (Percent.encodeComponent literal value)
    | none => .error (.emptySlot name index)

/-- A path with a slash at its front, unless it is empty. -/
def rooted (path : String) : String :=
  match path.toList with
  | [] => path
  | '/' :: _ => path
  | _ => "/" ++ path

/-- The path of a call. -/
def path (o : Operation) (args : List Argument) : Except Refusal String := do
  let pieces ← o.path.tokens.mapM (tokenText o.literal args)
  return rooted (Text.join "" pieces)

/-! ## Parameters -/

/-- Whether an argument may stand for a wire name. -/
def isNameLike : Argument → Bool
  | .name _ => true
  | .text _ => true
  | _ => false

/-- The value of a parameter; none when it is left out. -/
def value? (args : List Argument) (part : Part) (p : Parameter) :
    Except Refusal (Option String) :=
  match p.origin with
  | .fixed value => .ok (some value)
  | .argument index required allowed =>
    match args[index]? with
    | none => if required then .error (.nullArgument part p.key index) else .ok none
    | some a =>
      match a.wire? with
      | none => if required then .error (.nullArgument part p.key index) else .ok none
      | some text =>
        match allowed with
        | none => .ok (some text)
        | some names =>
          if isNameLike a && names.contains text then .ok (some text)
          else .error (.notAllowed part p.key text names)

/-- The entries that parameters contribute. -/
def entries (args : List Argument) (part : Part) : List Parameter → Except Refusal Entries
  | [] => .ok []
  | p :: rest => do
    let value ← value? args part p
    let others ← entries args part rest
    return match value with
      | some v => (p.key, v) :: others
      | none => others

/-! ## Payload -/

/-- The fields of a payload, after options. -/
def payloadFields (args : List Argument) (options : List Options) (fields : List Parameter) :
    Except Refusal Entries := do
  return Options.overFields options (← entries args .payload fields)

/-- The bytes of a payload. -/
def payloadData (s : Serializer) (args : List Argument) (options : List Options) :
    PayloadSource → Except Refusal Bytes
  | .argument index =>
    if (Options.allFields options).isEmpty then
      match args[index]? with
      | none => .error (.payloadNull index)
      | some a =>
        if a.isNull then .error (.payloadNull index)
        else (s.argument a).mapError .component
    else .error (.payloadNotFields index)
  | .fields fields => do
    let all ← payloadFields args options fields
    (s.fields all).mapError .component

/-- The payload of a call. -/
def payload (serializers : Family Serializer) (o : Operation) (args : List Argument)
    (options : List Options) : Except Refusal (Option Payload) :=
  match o.payload with
  | none =>
    if (Options.allFields options).isEmpty then .ok none else .error .noPayload
  | some spec => do
    let s ← (serializers.resolve spec.serializer o.id).mapError fun e => .component (.declaration e)
    let data ← payloadData s args options spec.source
    return some ⟨data, spec.contentType⟩

/-- Headers with those that describe a payload. -/
def describePayload (h : Headers) : Option Payload → Headers
  | none => h
  | some p =>
    (h.set "Content-Type" p.contentType).set "Content-Length" (toString p.data.length)

/-- The headers that an operation declares: what it accepts, then its own. -/
def declaredHeaders (o : Operation) (own : Entries) : Headers :=
  match o.accept with
  | none => ⟨own⟩
  | some mediaType => ⟨("Accept", mediaType) :: own⟩

/-! ## The request -/

/-- The request of a call, or why there is none. -/
def bind? (serializers : Family Serializer) (endpoint : String) (o : Operation)
    (args : List Argument) (options : List Options) : Except Refusal Request := do
  if !options.isEmpty && !o.takesOptions then throw .optionsNotTaken
  let base ← base endpoint o args
  let path ← path o args
  let query ← entries args .query o.query
  let own ← entries args .header o.headers
  let payload ← payload serializers o args options
  return {
    operation := o.id
    method := o.method
    endpoint := base ++ path
    query := Options.overQuery options ⟨query⟩
    headers := describePayload (Options.overHeaders options (declaredHeaders o own)) payload
    payload := payload
    filters := o.filters
    literal := o.literal }

/-- The request of a call, or the fault of its refusal. -/
def bind (serializers : Family Serializer) (endpoint : String) (o : Operation)
    (args : List Argument) (options : List Options) : Except Fault Request :=
  (bind? serializers endpoint o args options).mapError (Refusal.fault o.id)

end Binding

end RestCall

import RestCall.Json.Value
import RestCall.Manifest.Basic
import RestCall.Shape.Source
/-!
# RestCall — manifests as documents

A manifest is read from any kind of document by one description of its
records, and written as a JSON value. What is written leaves out the
settings that are not there, and reading it gives the manifest back.
-/

namespace RestCall

namespace Manifest

/-! ## Reading -/

section Reading

open Shape

variable {m : Type → Type} [Source m]

/-- A position among the arguments. -/
def indexValue : m Nat := Shape.natural .index

/-- A parameter. -/
def ParameterEntry.record : Record m ParameterEntry where
  name := "ParamDef"
  start := ⟨"", none, none, false, none⟩
  fields :=
    [required "key" Source.text fun e key => { e with key },
     Shape.optional "value" (Source.optional Source.text) fun e value => { e with value },
     Shape.optional "arg" (Source.optional indexValue) fun e argument => { e with argument },
     Shape.optional "optional" Source.flag fun e isOptional => { e with isOptional },
     Shape.optional "values" (Source.optional (Source.list Source.text))
       fun e allowed => { e with allowed }]

/-- A slot of a path. -/
def PathEntry.record : Record m PathEntry where
  name := "PathParamDef"
  start := ⟨"", 0⟩
  fields :=
    [required "name" Source.text fun e name => { e with name },
     required "arg" indexValue fun e argument => { e with argument }]

/-- A payload. -/
def PayloadEntry.record : Record m PayloadEntry where
  name := "PayloadDef"
  start := ⟨none, [], "", ""⟩
  fields :=
    [Shape.optional "arg" (Source.optional indexValue) fun e argument => { e with argument },
     Shape.optional "fields" (Source.list (Source.record ParameterEntry.record))
       fun e fields => { e with fields },
     required "serializer" Source.text fun e serializer => { e with serializer },
     required "content_type" Source.text fun e contentType => { e with contentType }]

/-- Shared settings. -/
def Shared.record : Record m Shared where
  name := "OperationDefaults"
  start := ⟨[], [], [], none, none⟩
  fields :=
    [Shape.optional "filters" (Source.list Source.text) fun e filters => { e with filters },
     Shape.optional "query" (Source.list (Source.record ParameterEntry.record))
       fun e query => { e with query },
     Shape.optional "headers" (Source.list (Source.record ParameterEntry.record))
       fun e headers => { e with headers },
     Shape.optional "consumes" (Source.optional Source.text) fun e accept => { e with accept },
     Shape.optional "skip_encoding" (Source.optional Source.text)
       fun e literal => { e with literal }]

/-- Whether the key of an entry stands for a field: its name, or its number. -/
def isKeyOf (name : String) : Content → Option Bool
  | .text key => some (key == name)
  | .integer n => if 0 ≤ n then some (n == 0) else none
  | _ => none

/-- The value of the one field of a record, when the record is well-formed. -/
def onlyField? (name : String) : Content → Option Content
  | .map entries => do
    let marked ← entries.mapM fun (key, value) => (isKeyOf name key).map fun b => (b, value)
    match marked.filter (·.1) with
    | [(_, value)] => some value
    | _ => none
  | _ => none

/-- A path, when the content is a record of one. -/
def pathContent? (content : Content) : Option Unwrapping :=
  match onlyField? "path" content with
  | some (.text path) => some (.path path)
  | _ => none

/-- A depth, when the content is a record of one. -/
def depthContent? (content : Content) : Option Unwrapping :=
  match onlyField? "depth" content with
  | some (.integer n) => if 0 ≤ n then some (.depth n.toNat) else none
  | _ => none

/-- The part of a response that is the result: a path if there is one, else
a depth. -/
def unwrappingValue : m Unwrapping := do
  let content ← Source.content
  match (pathContent? content).or (depthContent? content) with
  | some unwrapping => return unwrapping
  | none => Source.refuse (.noAlternative "UnwrapDef")

/-- An operation. -/
def OperationEntry.record : Record m OperationEntry where
  name := "OperationDef"
  start :=
    { id := "", method := "GET", path := "", pathArguments := [], query := [], headers := [],
      accept := none, payload := none, endpointArgument := none, parser := none,
      mapper := none, filters := [], unwrapping := none, literal := none,
      takesOptions := false }
  fields :=
    [required "id" Source.text fun e id => { e with id },
     Shape.optional "method" Source.text fun e method => { e with method },
     Shape.optional "path" Source.text fun e path => { e with path },
     Shape.optional "path_params" (Source.list (Source.record PathEntry.record))
       fun e pathArguments => { e with pathArguments },
     Shape.optional "query" (Source.list (Source.record ParameterEntry.record))
       fun e query => { e with query },
     Shape.optional "headers" (Source.list (Source.record ParameterEntry.record))
       fun e headers => { e with headers },
     Shape.optional "consumes" (Source.optional Source.text) fun e accept => { e with accept },
     Shape.optional "payload" (Source.optional (Source.record PayloadEntry.record))
       fun e payload => { e with payload },
     Shape.optional "endpoint_arg" (Source.optional indexValue)
       fun e endpointArgument => { e with endpointArgument },
     Shape.optional "parser" (Source.optional Source.text) fun e parser => { e with parser },
     Shape.optional "exception_mapper" (Source.optional Source.text)
       fun e mapper => { e with mapper },
     Shape.optional "filters" (Source.list Source.text) fun e filters => { e with filters },
     Shape.optional "unwrap" (Source.optional unwrappingValue)
       fun e unwrapping => { e with unwrapping },
     Shape.optional "skip_encoding" (Source.optional Source.text)
       fun e literal => { e with literal },
     Shape.optional "options" Source.flag fun e takesOptions => { e with takesOptions }]

/-- A manifest. -/
def record : Record m Manifest where
  name := "ApiManifest"
  start := ⟨"", none, none, ⟨[], [], [], none, none⟩, []⟩
  fields :=
    [required "id" Source.text fun e id => { e with id },
     Shape.optional "name" (Source.optional Source.text) fun e name => { e with name },
     Shape.optional "endpoint" (Source.optional Source.text) fun e endpoint => { e with endpoint },
     Shape.optional "defaults" (Source.record Shared.record) fun e shared => { e with shared },
     required "operations" (Source.list (Source.record OperationEntry.record))
       fun e operations => { e with operations }]

/-- Reads a manifest. -/
def value : m Manifest := Source.record record

end Reading

/-! ## Writing -/

/-- A member that is written when its setting is there. -/
def member? {α : Type} (key : String) (write : α → Json) : Option α → List (String × Json)
  | none => []
  | some a => [(key, write a)]

/-- Strings as a value. -/
def strings (items : List String) : Json := .array (items.map .string)

/-- A parameter as a value. -/
def ParameterEntry.toJson (e : ParameterEntry) : Json :=
  .object ([("key", .string e.key)] ++ member? "value" .string e.value ++
    member? "arg" Json.ofNat e.argument ++ [("optional", .bool e.isOptional)] ++
    member? "values" strings e.allowed)

/-- A slot of a path as a value. -/
def PathEntry.toJson (e : PathEntry) : Json :=
  .object [("name", .string e.name), ("arg", Json.ofNat e.argument)]

/-- A payload as a value. -/
def PayloadEntry.toJson (e : PayloadEntry) : Json :=
  .object (member? "arg" Json.ofNat e.argument ++
    [("fields", .array (e.fields.map ParameterEntry.toJson)),
     ("serializer", .string e.serializer), ("content_type", .string e.contentType)])

/-- Shared settings as a value. -/
def Shared.toJson (e : Shared) : Json :=
  .object ([("filters", strings e.filters),
      ("query", .array (e.query.map ParameterEntry.toJson)),
      ("headers", .array (e.headers.map ParameterEntry.toJson))] ++
    member? "consumes" .string e.accept ++ member? "skip_encoding" .string e.literal)

/-- The part of a response that is the result, as a value. -/
def unwrappingJson : Unwrapping → Json
  | .path path => .object [("path", .string path)]
  | .depth depth => .object [("depth", Json.ofNat depth)]

/-- An operation as a value. -/
def OperationEntry.toJson (e : OperationEntry) : Json :=
  .object ([("id", .string e.id), ("method", .string e.method), ("path", .string e.path),
      ("path_params", .array (e.pathArguments.map PathEntry.toJson)),
      ("query", .array (e.query.map ParameterEntry.toJson)),
      ("headers", .array (e.headers.map ParameterEntry.toJson))] ++
    member? "consumes" .string e.accept ++ member? "payload" PayloadEntry.toJson e.payload ++
    member? "endpoint_arg" Json.ofNat e.endpointArgument ++
    member? "parser" .string e.parser ++ member? "exception_mapper" .string e.mapper ++
    [("filters", strings e.filters)] ++ member? "unwrap" unwrappingJson e.unwrapping ++
    member? "skip_encoding" .string e.literal ++ [("options", .bool e.takesOptions)])

/-- A manifest as a value. -/
def toJson (m : Manifest) : Json :=
  .object ([("id", .string m.id)] ++ member? "name" .string m.name ++
    member? "endpoint" .string m.endpoint ++
    [("defaults", m.shared.toJson),
     ("operations", .array (m.operations.map OperationEntry.toJson))])

end Manifest

end RestCall

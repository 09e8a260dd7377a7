import RestCall.Encoding.Percent
import RestCall.Text.Blank
import RestCall.Text.Case
/-!
# RestCall — requests

A request holds all that is sent. Headers and query parameters are ordered
lists of entries in which a name may occur repeatedly; setting a name
leaves exactly one entry of it, at the place of the first. Header names
are compared without regard to the case of ASCII letters and keep the case
they were given; query keys are compared as they are.
-/

namespace RestCall

/-- Entries of name and value, in order. -/
abbrev Entries := List (String × String)

namespace Entries

/-- Replaces the value of the first entry whose name is in a class and drops
the others; `none` when there is no entry to replace. -/
def replaceFirst? (same : String → Bool) (value : String) : Entries → Option Entries
  | [] => none
  | (n, v) :: rest =>
    if same n then some ((n, value) :: rest.filter fun e => !same e.1)
    else (replaceFirst? same value rest).map fun rest' => (n, v) :: rest'

/-- Entries with exactly one whose name is in a class: the first keeps its
place and name, a new one comes last. -/
def setBy (same : String → Bool) (name value : String) (entries : Entries) : Entries :=
  (replaceFirst? same value entries).getD (entries ++ [(name, value)])

/-- The value of the first entry whose name is in a class. -/
def getBy? (same : String → Bool) (entries : Entries) : Option String :=
  (entries.find? fun e => same e.1).map (·.2)

/-- The entries whose name is not in a class. -/
def removeBy (same : String → Bool) (entries : Entries) : Entries :=
  entries.filter fun e => !same e.1

/-- Whether there are fewer entries without those whose name is in a class. -/
def removesBy (same : String → Bool) (entries : Entries) : Bool :=
  entries.length != (removeBy same entries).length

end Entries

/-- Headers. -/
structure Headers where
  entries : Entries
deriving Repr, DecidableEq

namespace Headers

/-- No headers. -/
def empty : Headers := ⟨[]⟩

/-- One more header, at the end. -/
def append (h : Headers) (name value : String) : Headers := ⟨h.entries ++ [(name, value)]⟩

/-- A header in place of all of its name. -/
def set (h : Headers) (name value : String) : Headers :=
  ⟨h.entries.setBy (Text.sameName name) name value⟩

/-- The first value of a name. -/
def get? (h : Headers) (name : String) : Option String := h.entries.getBy? (Text.sameName name)

/-- All values of a name. -/
def getAll (h : Headers) (name : String) : List String :=
  (h.entries.filter fun e => Text.sameName name e.1).map (·.2)

/-- Headers without those of a name. -/
def remove (h : Headers) (name : String) : Headers :=
  ⟨h.entries.removeBy (Text.sameName name)⟩

/-- Whether removing a name takes headers away. -/
def removes (h : Headers) (name : String) : Bool := h.entries.removesBy (Text.sameName name)

/-- Whether a name occurs. -/
def contains (h : Headers) (name : String) : Bool := (h.get? name).isSome

end Headers

/-- Query parameters, not yet encoded. -/
structure Query where
  entries : Entries
deriving Repr, DecidableEq

namespace Query

/-- No parameters. -/
def empty : Query := ⟨[]⟩

/-- One more parameter, at the end. -/
def append (q : Query) (key value : String) : Query := ⟨q.entries ++ [(key, value)]⟩

/-- A parameter in place of all of its key. -/
def set (q : Query) (key value : String) : Query := ⟨q.entries.setBy (key == ·) key value⟩

/-- The first value of a key. -/
def get? (q : Query) (key : String) : Option String := q.entries.getBy? (key == ·)

/-- The parameters without those of a key. -/
def remove (q : Query) (key : String) : Query := ⟨q.entries.removeBy (key == ·)⟩

/-- Whether removing a key takes parameters away. -/
def removes (q : Query) (key : String) : Bool := q.entries.removesBy (key == ·)

/-- Whether a key occurs. -/
def contains (q : Query) (key : String) : Bool := (q.get? key).isSome

/-- One parameter in encoded form. -/
def encodeEntry (skip : List Char) (entry : String × String) : String :=
  Percent.encodeComponent skip entry.1 ++ "=" ++ Percent.encodeComponent skip entry.2

/-- The parameters in encoded form. -/
def encode (q : Query) (skip : List Char) : String :=
  Text.join "&" (q.entries.map (encodeEntry skip))

end Query

/-- The body of a request. -/
structure Payload where
  data : Bytes
  contentType : String
deriving Repr, DecidableEq

/-- A request. `filters` names the filters of its operation, `literal` the
characters left unescaped in its query. -/
structure Request where
  operation : String
  method : String
  endpoint : String
  query : Query
  headers : Headers
  payload : Option Payload
  filters : List String
  literal : List Char
deriving Repr, DecidableEq

namespace Request

/-- The address with its query. -/
def uri (r : Request) : String :=
  if r.query.entries.isEmpty then r.endpoint
  else r.endpoint ++ "?" ++ r.query.encode r.literal

/-- The first line of the request. -/
def line (r : Request) : String := r.method ++ " " ++ r.uri ++ " HTTP/1.1"

/-- Whether a header describes the payload. -/
def isPayloadHeader (name : String) : Bool :=
  Text.sameName "content-type" name || Text.sameName "content-length" name

/-- The headers that do not describe the payload, a line each. -/
def otherHeaders (r : Request) : String :=
  Text.join "" ((r.headers.entries.filter fun e => !isPayloadHeader e.1).map
    fun e => e.1 ++ ": " ++ e.2 ++ "\n")

end Request

end RestCall

import RestCall.Operation.Template
/-!
# RestCall — operations

An operation says how one logical call becomes a request: the method, the
path, where each parameter's value comes from, what the payload is made
of, and which components handle credentials and response.
-/

namespace RestCall

/-- Where a parameter's value comes from. An argument may be required or
may be left out, and may be confined to some wire names. -/
inductive Origin where
  | fixed (value : String)
  | argument (index : Nat) (required : Bool) (allowed : Option (List String))
deriving Repr, DecidableEq

/-- A named parameter: of the query, a header, or a field of the payload. -/
structure Parameter where
  key : String
  origin : Origin
deriving Repr, DecidableEq

/-- What the payload is made of: one argument, or named fields. -/
inductive PayloadSource where
  | argument (index : Nat)
  | fields (fields : List Parameter)
deriving Repr, DecidableEq

/-- A declared payload: its source, the serializer's name and the content
type. -/
structure PayloadSpec where
  source : PayloadSource
  serializer : String
  contentType : String
deriving Repr, DecidableEq

/-- The part of a response that is the result: what a path leads to, or
what is left after descending through objects of one member. -/
inductive Unwrapping where
  | path (path : String)
  | depth (depth : Nat)
deriving Repr, DecidableEq

/-- An operation. `literal` lists the characters that its provider wants
unescaped in paths and queries. -/
structure Operation where
  id : String
  method : String
  path : Template
  query : List Parameter
  headers : List Parameter
  accept : Option String
  payload : Option PayloadSpec
  endpointArgument : Option Nat
  parser : String
  mapper : Option String
  filters : List String
  unwrapping : Option Unwrapping
  literal : List Char
  takesOptions : Bool
deriving Repr, DecidableEq

namespace Operation

/-- A character of a method's name. The percent sign is refused. -/
def isMethodChar (c : Char) : Bool :=
  c.isAlphanum || "!#$&'*+-.^_\x60|~".toList.contains c

/-- Whether a text is the name of a method. -/
def isMethod (s : String) : Bool := !s.isEmpty && s.toList.all isMethodChar

end Operation

end RestCall

import RestCall.Request.Basic
/-!
# RestCall — options

An operation may take options beside its arguments. Each adds query
parameters, headers and payload fields, and what it adds replaces what was
there under the same name.
-/

namespace RestCall

/-- What one options object contributes. -/
structure Options where
  query : Entries
  headers : Entries
  fields : Entries
deriving Repr, DecidableEq

namespace Options

/-- No contribution. -/
def empty : Options := ⟨[], [], []⟩

/-- All payload fields that options contribute, in order. -/
def allFields (options : List Options) : Entries := options.flatMap Options.fields

/-- All query parameters that options contribute, in order. -/
def allQuery (options : List Options) : Entries := options.flatMap Options.query

/-- All headers that options contribute, in order. -/
def allHeaders (options : List Options) : Entries := options.flatMap Options.headers

/-- Query parameters after options. -/
def overQuery (options : List Options) (q : Query) : Query :=
  (allQuery options).foldl (fun q (k, v) => q.set k v) q

/-- Headers after options. -/
def overHeaders (options : List Options) (h : Headers) : Headers :=
  (allHeaders options).foldl (fun h (n, v) => h.set n v) h

/-- A field put among others: the first of its key takes the new value, a
new one comes last. -/
def putField (fields : Entries) (field : String × String) : Entries :=
  match fields with
  | [] => [field]
  | (k, v) :: rest =>
    if k = field.1 then (k, field.2) :: rest else (k, v) :: putField rest field

/-- Payload fields after options. -/
def overFields (options : List Options) (fields : Entries) : Entries :=
  (allFields options).foldl putField fields

end Options

end RestCall

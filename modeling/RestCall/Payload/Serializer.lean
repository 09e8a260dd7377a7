import RestCall.Argument
import RestCall.Component.Basic
import RestCall.Encoding.Percent
import RestCall.Fault.Basic
import RestCall.Request.Basic
/-!
# RestCall — payload serializers

A serializer turns one argument, or a list of named fields, into the bytes
of a payload. Four are built in: JSON, lines of a key and a value, forms,
and the text of an argument as it is.
-/

namespace RestCall

/-- A serializer. -/
structure Serializer where
  argument : Argument → Except Fault Bytes
  fields : Entries → Except Fault Bytes

namespace Serializer

/-- What a serializer cannot turn into a payload. -/
def refusal (serializer message : String) : Fault :=
  .binding message { Context.empty with source := some serializer }

/-! ## JSON -/

/-- Fields as the members of an object. -/
def jsonFields (fields : Entries) : Json :=
  .object (Json.collect (fields.map fun (k, v) => (k, .string v)))

/-- Compact JSON. -/
def json : Serializer where
  argument := fun a => .ok (Utf8.ofString a.toJson.text)
  fields := fun fields => .ok (Utf8.ofString (jsonFields fields).text)

/-! ## Keys and values -/

mutual

/-- The text of a value on its line; lists are separated by blanks, and
what is null has no text. -/
def lineValue? : Json → Option String
  | .null => none
  | .string s => some s
  | .array items => some (Text.join " " (lineValues items))
  | v => some v.text

/-- The texts of those items that have one. -/
def lineValues : List Json → List String
  | [] => []
  | v :: rest =>
    match lineValue? v with
    | some s => s :: lineValues rest
    | none => lineValues rest

end

/-- Fields as lines of a key and a value. -/
def keyValueLines (fields : Entries) : String :=
  Text.join "\n" (fields.map fun (k, v) => k ++ " " ++ v)

/-- The members of an object that have a text. -/
def lineFields (members : List (String × Json)) : Entries :=
  members.filterMap fun (k, v) => (lineValue? v).map fun s => (k, s)

/-- Lines of a key and a value. -/
def keyValues : Serializer where
  argument := fun a =>
    match a.toJson with
    | .object members => .ok (Utf8.ofString (keyValueLines (lineFields members)))
    | other =>
      .error (refusal "key_values" ("key/value payload needs an object, got " ++ other.text))
  fields := fun fields => .ok (Utf8.ofString (keyValueLines fields))

/-! ## Forms -/

/-- Fields as a form. -/
def formText (fields : Entries) : String :=
  Text.join "&" (fields.map (Query.encodeEntry []))

/-- The members of an object that have a text on the wire. -/
def wireFields (members : List (String × Json)) : Entries :=
  members.filterMap fun (k, v) => v.wire?.map fun s => (k, s)

/-- Forms. -/
def form : Serializer where
  argument := fun a =>
    match a.toJson with
    | .object members => .ok (Utf8.ofString (formText (wireFields members)))
    | other => .error (refusal "form" ("form payload needs an object, got " ++ other.text))
  fields := fun fields => .ok (Utf8.ofString (formText fields))

/-! ## Raw text -/

/-- The text of an argument as it is. -/
def raw : Serializer where
  argument := fun a =>
    match a.wire? with
    | some s => .ok (Utf8.ofString s)
    | none => .error (refusal "raw" "raw payload argument is null")
  fields := fun _ => .error (refusal "raw" "raw payload cannot be built from fields")

/-- The serializers that are built in. -/
def builtin : Family Serializer :=
  [("json", json), ("key_values", keyValues), ("form", form), ("raw", raw)].foldl
    (fun f (id, s) => f.register id s) (Family.empty "serializer")

end Serializer

end RestCall

import RestCall.Json.Document
import RestCall.Manifest.Document
import RestCall.Operation.Catalogue
import RestCall.Yaml.Document
/-!
# RestCall — loading manifests

A manifest is loaded from a text in YAML or JSON, or from a file whose
name tells which of the two it is. What a file gives when it is read is
handed in, so loading is a function.
-/

namespace RestCall

namespace Manifest

/-- The manifest of a YAML text. -/
def ofYaml (text : String) : Except DeclarationFault Manifest :=
  (Yaml.parse value text).mapError fun e => .malformedManifest e.describe

/-- The manifest of a JSON text that came from the named place. -/
def ofJsonAt (place text : String) : Except DeclarationFault Manifest :=
  (Json.Reader.run value (Utf8.ofString text)).mapError fun e => .unloadable place e.describe

/-- The manifest of a JSON text. -/
def ofJson (text : String) : Except DeclarationFault Manifest := ofJsonAt "<inline json>" text

/-! ## Files -/

/-- What reading a file gives. -/
inductive FileContent where
  | missing
  | bytes (content : Bytes)

/-- The last part of a path. -/
def fileName (path : List Char) : List Char := (path.reverse.takeWhile (· != '/')).reverse

/-- What follows the last dot of a file's name, when the dot is not its
first character. -/
def extension? (path : List Char) : Option (List Char) :=
  let reversed := (fileName path).reverse
  let after := reversed.takeWhile (· != '.')
  match reversed.drop after.length with
  | [] => none
  | [_] => none
  | _ => some after.reverse

/-- Whether a path names a JSON file. -/
def isJsonPath (path : String) : Bool :=
  (extension? path.toList).any fun e => Text.sameName (String.ofList e) "json"

/-- The text of a file. -/
def fileText (path : String) : FileContent → Except DeclarationFault String
  | .missing => .error (.unloadable path "No such file or directory (os error 2)")
  | .bytes content =>
    match Utf8.strict? content with
    | some cs => .ok (String.ofList cs)
    | none => .error (.unloadable path "stream did not contain valid UTF-8")

/-- The manifest of a file. -/
def ofFile (path : String) (content : FileContent) : Except DeclarationFault Manifest := do
  let text ← fileText path content
  if isJsonPath path then ofJsonAt path text else ofYaml text

/-- The catalogue of a manifest's operations. -/
def catalogue (m : Manifest) : Except DeclarationFault Catalogue := do
  Catalogue.ofList (← m.declared)

end Manifest

end RestCall

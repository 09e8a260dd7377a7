/-!
# RestCall — faults of declarations

Operations refer to each other's names and to components by name, and they
are loaded from manifests. What goes wrong there is a mistake of whoever
wrote the declarations; it shows when a client is put together or when an
operation is called that does not exist.
-/

namespace RestCall

/-- A fault of a declaration. -/
inductive DeclarationFault where
  | unknownOperation (id : String) (hint : Option String)
  | duplicateOperation (id : String)
  | unknownComponent (kind id operation : String) (hint : Option String)
  | invalidTemplate (template reason : String)
  | invalid (id reason : String)
  | unloadable (path reason : String)
  | malformedManifest (reason : String)
deriving Repr, DecidableEq

namespace DeclarationFault

/-- A hint on a line of its own. -/
def hintLine : Option String → String
  | none => ""
  | some hint => "\n Hint: " ++ hint

/-- The wording of a fault. -/
def describe : DeclarationFault → String
  | .unknownOperation id hint => s!"Unknown operation: {id}" ++ hintLine hint
  | .duplicateOperation id => s!"Operation '{id}' is registered twice"
  | .unknownComponent kind id operation hint =>
    s!"Unknown {kind} '{id}' referenced by {operation}" ++ hintLine hint
  | .invalidTemplate template reason => s!"Invalid path template '{template}': {reason}"
  | .invalid id reason => s!"Invalid descriptor for '{id}': {reason}"
  | .unloadable path reason => s!"Failed to load manifest from {path}: {reason}"
  | .malformedManifest reason => s!"YAML syntax error: {reason}"

/-- The name of a fault's kind. -/
def kind : DeclarationFault → String
  | .unknownOperation _ _ => "UnknownOperation"
  | .duplicateOperation _ => "DuplicateOperation"
  | .unknownComponent _ _ _ _ => "UnknownComponent"
  | .invalidTemplate _ _ => "InvalidTemplate"
  | .invalid _ _ => "Invalid"
  | .unloadable _ _ => "LoadError"
  | .malformedManifest _ => "YamlError"

/-- A fault with a hint, where its kind has one. -/
def withHint (hint : String) : DeclarationFault → DeclarationFault
  | .unknownOperation id _ => .unknownOperation id (some hint)
  | .unknownComponent kind id operation _ => .unknownComponent kind id operation (some hint)
  | fault => fault

end DeclarationFault

end RestCall

import RestCall.Fault.Declaration
import RestCall.Text.Blank
/-!
# RestCall — path templates

A template such as `/drives/{uuid}/info` is a sequence of literal texts and
named slots. Slots are numbered from the left, and each takes the argument
of its number unless it is pointed at another one by name.
-/

namespace RestCall

/-- A part of a template. -/
inductive Token where
  | literal (text : String)
  | slot (name : String) (argument : Nat)
deriving Repr, DecidableEq

/-- A template: its text and its parts. -/
structure Template where
  text : String
  tokens : List Token
deriving Repr, DecidableEq

namespace Template

/-- Why a text is no template. -/
inductive Flaw where
  | nested
  | unclosed
  | emptyName
  | unmatched
deriving Repr, DecidableEq

/-- The wording of a flaw. -/
def Flaw.describe : Flaw → String
  | .nested => "nested '\x7b'"
  | .unclosed => "unclosed '\x7b'"
  | .emptyName => "empty placeholder name"
  | .unmatched => "unmatched '\x7d'"

/-- A literal as the parts it contributes: none when it is empty. -/
def literalTokens (reversed : List Char) : List Token :=
  if reversed.isEmpty then [] else [.literal (String.ofList reversed.reverse)]

/-- The parts of the rest of a text. Carried along are the name of a slot
that has been opened and the literal before it, both in reverse, and the
number of the next slot. -/
def scan : (slot : Option (List Char)) → (literal : List Char) → (next : Nat) → List Char →
    Except Flaw (List Token)
  | none, literal, _, [] => .ok (literalTokens literal)
  | some _, _, _, [] => .error .unclosed
  | none, literal, next, c :: rest =>
    if c = '\x7b' then scan (some []) literal next rest
    else if c = '\x7d' then .error .unmatched
    else scan none (c :: literal) next rest
  | some name, literal, next, c :: rest =>
    if c = '\x7d' then
      let trimmed := Text.trim name.reverse
      if trimmed.isEmpty then .error .emptyName
      else match scan none [] (next + 1) rest with
        | .ok tokens =>
          .ok (literalTokens literal ++ .slot (String.ofList trimmed) next :: tokens)
        | .error flaw => .error flaw
    else if c = '\x7b' then .error .nested
    else scan (some (c :: name)) literal next rest

/-- The template of a text. -/
def parse (text : String) : Except Flaw Template :=
  (scan none [] 0 text.toList).map fun tokens => ⟨text, tokens⟩

/-- The template of a text, the flaw being that of a declaration. -/
def declare (text : String) : Except DeclarationFault Template :=
  (parse text).mapError fun flaw => .invalidTemplate text flaw.describe

/-- A part with the slots of a name pointed at an argument. -/
def Token.rebind (name : String) (argument : Nat) : Token → Token
  | .slot n a => if n = name then .slot n argument else .slot n a
  | .literal text => .literal text

/-- The slots of a template with their arguments. -/
def slots (t : Template) : List (String × Nat) :=
  t.tokens.filterMap fun
    | .slot name argument => some (name, argument)
    | .literal _ => none

/-- Whether a template has a slot of the name. -/
def hasSlot (t : Template) (name : String) : Bool := t.slots.any fun s => s.1 == name

/-- A template with all slots of a name pointed at an argument. -/
def rebind (t : Template) (name : String) (argument : Nat) : Template :=
  { t with tokens := t.tokens.map (Token.rebind name argument) }

/-- Whether a template has no parts. -/
def isEmpty (t : Template) : Bool := t.tokens.isEmpty

end Template

end RestCall

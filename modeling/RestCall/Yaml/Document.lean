import RestCall.Text.Utf8
import RestCall.Yaml.Event
import RestCall.Yaml.Plain
/-!
# RestCall — YAML texts as documents

A text holds one document. It is read into events first; a record is then
read from the events, so a value of the wrong shape is reported rather
than a fault of the text behind it. A failure without a place takes the
place and the path of the innermost scalar, list or record around it.

An alias is read by going back to its anchor. How deep values may be
nested and how often anchors may be gone back to is limited, so texts
that refer to themselves are refused.
-/

namespace RestCall

namespace Yaml

open Shape (Misfit Found IntegerKind Record Content)

/-! ## Documents -/

/-- A node of a document, or the end of a collection. An alias refers to an
anchor by its number. A document without a root has the node `absent`. -/
inductive Node where
  | alias (anchor : Nat)
  | scalar (tag : Option (List Char)) (text : List Char) (style : Style)
  | openSequence (tag : Option (List Char))
  | closeSequence
  | openMapping (tag : Option (List Char))
  | closeMapping
  | absent

/-- A document: its nodes in order with their places, the positions of the
anchors, and why the text could not be read further. -/
structure Document where
  nodes : Array (Node × Mark)
  anchors : List (Nat × Nat)
  failure : Option Failure

/-- The state of collecting the nodes of a document: the numbers of the
anchor names, latest first, and how many names there are. A name that is
given again takes the number that the next new name will take, so the two
come to stand for the same node. -/
structure Anchoring where
  document : Document
  names : List (List Char × Nat)
  known : List (List Char)

namespace Anchoring

/-- Gives a name to the node that comes next. -/
def name (name : Option (List Char)) (s : Anchoring) : Anchoring :=
  match name with
  | none => s
  | some name =>
    let number := s.known.length
    { document :=
        { s.document with anchors := (number, s.document.nodes.size) :: s.document.anchors }
      names := (name, number) :: s.names
      known := if s.known.contains name then s.known else name :: s.known }

/-- Adds a node. -/
def add (node : Node) (mark : Mark) (s : Anchoring) : Anchoring :=
  { s with document := { s.document with nodes := s.document.nodes.push (node, mark) } }

/-- Adds the nodes of events, up to an alias without anchor. -/
def addEvents : List (Event × Mark) → Anchoring → Document
  | [], s => s.document
  | (event, mark) :: rest, s =>
    match event with
    | .alias name =>
      match s.names.find? (·.1 == name) with
      | some (_, number) => addEvents rest (s.add (.alias number) mark)
      | none => { s.document with failure := some (.unknownAnchor mark) }
    | .scalar p text style => addEvents rest ((s.name p.anchor).add (.scalar p.tag text style) mark)
    | .openSequence p => addEvents rest ((s.name p.anchor).add (.openSequence p.tag) mark)
    | .closeSequence => addEvents rest (s.add .closeSequence mark)
    | .openMapping p => addEvents rest ((s.name p.anchor).add (.openMapping p.tag) mark)
    | .closeMapping => addEvents rest (s.add .closeMapping mark)

end Anchoring

/-- The document of events, up to a fault. -/
def Document.ofEvents (events : Array (Event × Mark)) (fault : Option Fault) : Document :=
  Anchoring.addEvents events.toList ⟨⟨#[], [], fault.map .text⟩, [], []⟩

/-- The document of a text without nodes. -/
def Document.blank (mark : Mark) : Document := ⟨#[(.absent, mark)], [], none⟩

/-- The first document of a token sequence, and whether anything follows. -/
def Document.first (tokens : List Token) (fault : Option Fault) : Document × Bool :=
  let start : Outline := ⟨tokens, fault, [], #[]⟩
  let whole : Events Bool := do
    match ← Events.openDocument true with
    | none => return false
    | some opening => do
      Events.root opening
      Events.closeDocument
      return true
  match whole start with
  | .error e s => (.ofEvents s.events (some e), false)
  | .ok false s => (.blank (s.tokens.head?.elim .zero Token.start), false)
  | .ok true s =>
    let further := match Events.openDocument false s with
      | .ok none _ => false
      | _ => true
    (.ofEvents s.events none, further)

/-- A character that a text may hold. -/
def isPrintable (c : Char) : Bool :=
  let n := c.toNat
  n == 0x09 || n == 0x0A || n == 0x0D || (0x20 ≤ n && n ≤ 0x7E) || n == 0x85 ||
    (0xA0 ≤ n && n ≤ 0xFFFD) || 0x10000 ≤ n

/-- The first document of a text, and whether anything follows it. -/
def Document.ofText (cs : List Char) : Document × Bool :=
  match cs.dropWhile isPrintable with
  | _ :: _ =>
    let before := (cs.takeWhile isPrintable).foldl (fun n c => n + c.utf8Size) 0
    (⟨#[], [], some (.control before)⟩, false)
  | [] =>
    let (tokens, fault) := Yaml.tokens cs
    Document.first tokens fault

/-! ## Reading -/

/-- What a value is read in: the document, the path that leads to the
value, and how much deeper it may be nested. -/
structure Scope where
  document : Document
  path : Path
  depth : Nat

/-- How far a document is read: the position of the next node, and how
often an anchor has been gone back to. -/
structure Progress where
  position : Nat
  returns : Nat

/-- A reading of a document. -/
abbrev Reader := ReaderT Scope (StateT Progress (Except Failure))

namespace Reader

/-- Refuses a value, the place being yet unknown. -/
def refuse {α : Type} (m : Misfit) : Reader α := throw (.loose m)

/-- The next node, which is not consumed. -/
def peek : Reader (Node × Mark) := do
  let document := (← read).document
  match document.nodes[(← get).position]? with
  | some node => return node
  | none => throw (document.failure.getD .endOfDocument)

/-- Consumes a node. -/
def skip : Reader Unit := modify fun s => { s with position := s.position + 1 }

/-- Fixes the place and the path of a failure. -/
def located {α : Type} (mark : Mark) (body : Reader α) : Reader α := fun scope s =>
  match body scope s with
  | .error (.loose m) => .error (.located m scope.path mark)
  | result => result

/-- Reads at an anchor and comes back. -/
def atAnchor {α : Type} (number : Nat) (body : Reader α) : Reader α := do
  let document := (← read).document
  let s ← get
  if document.nodes.size * 100 < s.returns + 1 then throw .tooManyAliases
  else match document.anchors.find? (·.1 == number) with
    | none => throw .endOfDocument
    | some (_, target) => do
      set (⟨target, s.returns + 1⟩ : Progress)
      let a ← body
      modify fun s' => { s' with position := s.position }
      return a

/-- Reads a node that is no alias. -/
def direct {α : Type} (body : Node → Mark → Reader α) : Reader α := do
  let (node, mark) ← peek
  match node with
  | .alias _ => throw .endOfDocument
  | node => do
    skip
    located mark (body node mark)

/-- Reads a node, or the node that an alias stands for. -/
def onNode {α : Type} (body : Node → Mark → Reader α) : Reader α := do
  let (node, _) ← peek
  match node with
  | .alias number => do
    skip
    atAnchor number (direct body)
  | _ => direct body

/-- Reads a value one level deeper. -/
def deeper {α : Type} (mark : Mark) (body : Reader α) : Reader α := fun scope =>
  match scope.depth with
  | 0 => throw (.tooDeep mark)
  | depth + 1 => body { scope with depth }

/-- Reads a value one step along the path. -/
def along {α : Type} (step : Step) (body : Reader α) : Reader α := fun scope =>
  body { scope with path := step :: scope.path }

/-- Whether a node is left empty. -/
def isLeftOut : Node → Bool
  | .absent => true
  | .scalar _ [] .plain => true
  | _ => false

/-- Refuses a node. -/
def unexpected {α : Type} (node : Node) (expected : String) : Reader α := do
  match node with
  | .scalar tag text style =>
    match tagged (style == .plain) tag text with
    | .ok found => refuse (.wrongType found expected)
    | .error m => refuse m
  | .openSequence _ => refuse (.wrongType .sequence expected)
  | .openMapping _ => refuse (.wrongType .map expected)
  | _ => throw .endOfDocument

/-! ## Scalars -/

/-- A text: any scalar, as it is written. -/
def textOf (expected : String) : Reader String :=
  onNode fun node _ =>
    match node with
    | .scalar _ text _ => return String.ofList text
    | node => unexpected node expected

/-- The text of a scalar that may stand for a value of the named type: one
that is plain, or a block tagged with the type. -/
def bare? (name : String) : Node → Option (List Char)
  | .scalar _ text .plain => some text
  | .scalar (some tag) text .literal => if tag = tagOf name then some text else none
  | _ => none

/-- A truth value. -/
def flagValue : Reader Bool :=
  onNode fun node _ =>
    match (bare? "bool" node).bind flag? with
    | some b => return b
    | none => unexpected node "a boolean"

/-- A whole number of a kind. -/
def integerValue (kind : IntegerKind) : Reader Int :=
  onNode fun node _ =>
    let within (wide : IntegerKind) (n : Int) : Option Int := if wide.holds n then some n else none
    let value := (bare? "int" node).bind fun cs =>
      if kind.low < 0 then
        (((natural? cs).map Int.ofNat).or (negative? cs)).bind (within .integer64)
      else ((natural? cs).map Int.ofNat).bind (within .natural64)
    match value with
    | none => unexpected node kind.name
    | some n =>
      match kind.admit n with
      | .ok n => return n
      | .error m => refuse m

/-- Whether a value is there: a plain scalar that is left out or spells the
empty value is none. -/
def isPresent : Node → Reader Bool
  | .absent => return false
  | .scalar tag text .plain =>
    match tag with
    | some tag =>
      if tag = tagOf "null" then
        if isNull text then return false
        else refuse (.wrongValue (.text (String.ofList text)) "null")
      else return true
    | none => return !text.isEmpty && !isNull text
  | _ => return true

/-- A value that may be the empty one instead. -/
def optionalValue {α : Type} (body : Reader α) : Reader (Option α) := do
  let here (node : Node) : Reader (Option α) := do
    if ← isPresent node then return some (← body)
    else do
      skip
      return none
  match (← peek).1 with
  | .alias number => do
    skip
    atAnchor number do
      match (← peek).1 with
      | .alias _ => throw .endOfDocument
      | node => here node
  | node => here node

/-! ## Collections -/

/-- Whether a sequence is over. -/
def atEnd : Reader Bool := do
  match (← peek).1 with
  | .closeSequence => return true
  | .closeMapping => return true
  | _ => return false

/-- The items of a sequence from the one of a position on. -/
def itemsFrom {α : Type} (body : Reader α) : (count : Nat) → (index : Nat) → Reader (List α)
  | 0, _ => return []
  | count + 1, index => do
    if ← atEnd then do
      skip
      return []
    else do
      let a ← along (.item index) body
      return a :: (← itemsFrom body count (index + 1))

/-- The items of a sequence. -/
def items {α : Type} (body : Reader α) : Reader (List α) := do
  itemsFrom body ((← read).document.nodes.size + 1) 0

/-- A list of values. -/
def listValue {α : Type} (body : Reader α) : Reader (List α) :=
  onNode fun node mark =>
    if isLeftOut node then return []
    else match node with
      | .openSequence _ => deeper mark (items body)
      | node => unexpected node "a sequence"

/-- How many of the open collections are left behind a node. -/
def openAfter (nested : Nat) : Node → Nat
  | .openSequence _ => nested + 1
  | .openMapping _ => nested + 1
  | .closeSequence => nested - 1
  | .closeMapping => nested - 1
  | _ => nested

/-- Moves past a value inside a number of open collections. -/
def skipFrom : (count : Nat) → (nested : Nat) → Reader Unit
  | 0, _ => return ()
  | count + 1, nested => do
    let nested := openAfter nested (← peek).1
    skip
    if nested ≠ 0 then skipFrom count nested

/-- Moves past a value. -/
def skipValue : Reader Unit := do skipFrom ((← read).document.nodes.size + 1) 0

/-- The step that a key makes: an alias has no text of its own. -/
def keyStep : Node → Step
  | .scalar _ text _ => .member text
  | _ => .unknown

/-- The entries of a mapping, each of which changes a state. -/
def entriesFrom {σ : Type} (entry : Step → σ → Reader σ) : (count : Nat) → σ → Reader σ
  | 0, s => return s
  | count + 1, s => do
    if ← atEnd then do
      skip
      return s
    else do
      let step := keyStep (← peek).1
      entriesFrom entry count (← entry step s)

/-- The entries of a mapping. -/
def entries {σ : Type} (entry : Step → σ → Reader σ) (s : σ) : Reader σ := do
  entriesFrom entry ((← read).document.nodes.size + 1) s

/-- An entry of a record. -/
def recordEntry {σ : Type} (r : Record Reader σ) (step : Step) (state : List String × σ) :
    Reader (List String × σ) := do
  let (seen, s) := state
  let key ← textOf "field identifier"
  match r.field? key with
  | none => do
    skipValue
    return (seen, s)
  | some f =>
    if seen.contains key then refuse (.duplicateField key)
    else return (key :: seen, ← along step (f.read s))

/-- A record. -/
def recordValue {σ : Type} (r : Record Reader σ) : Reader σ :=
  onNode fun node mark => do
    let complete (state : List String × σ) : Reader σ :=
      match r.missing? state.1 with
      | some name => refuse (.missingField name)
      | none => return state.2
    if isLeftOut node then complete ([], r.start)
    else match node with
      | .openMapping _ =>
        deeper mark do complete (← entries (recordEntry r) ([], r.start))
      | node => unexpected node r.title

/-! ## Any value -/

/-- What a scalar stands for as any value. -/
def contentOf : Found → Reader Content
  | .empty => return .empty
  | .flag b => return .flag b
  | .integer n => return .integer n
  | .float x => return .float x
  | .text s => return .text s
  | found => refuse (.wrongType found "any value")

/-- Refuses a value that a tag of its own makes a variant of a type. -/
def refuseVariant {α : Type} : Reader α :=
  refuse .variant

/-- Whether a tag is one of a document's own. -/
def isOwnTag (tag : Option (List Char)) : Bool := tag.any (·.head? == some '!')

/-- Any value that is nested no deeper than the given count. -/
def contentWithin : (count : Nat) → Reader Content
  | 0 => onNode fun _ mark => throw (.tooDeep mark)
  | count + 1 =>
    onNode fun node mark =>
      match node with
      | .scalar tag text style =>
        if isOwnTag tag then refuseVariant
        else match tagged (style == .plain) tag text with
          | .ok found => contentOf found
          | .error m => refuse m
      | .openSequence tag =>
        if isOwnTag tag then refuseVariant
        else deeper mark do return .list (← items (contentWithin count))
      | .openMapping tag =>
        if isOwnTag tag then refuseVariant
        else deeper mark do
          let pairs ← entries (fun step pairs => do
            let key ← contentWithin count
            let value ← along step (contentWithin count)
            return (key, value) :: pairs) []
          return .map pairs.reverse
      | _ => return .empty

/-- Any value. -/
def anyValue : Reader Content := do contentWithin ((← read).depth + 1)

end Reader

/-- YAML texts are documents. -/
instance : Shape.Source Reader where
  text := Reader.textOf "a string"
  flag := Reader.flagValue
  integer := Reader.integerValue
  optional := Reader.optionalValue
  list := Reader.listValue
  record := Reader.recordValue
  content := Reader.anyValue
  refuse := Reader.refuse

/-- How deep values may be nested. -/
def depthLimit : Nat := 128

/-- Reads a value from a text that holds one document. A value of the wrong
shape is refused before a fault of the text, and that before a further
document. -/
def parse {α : Type} (body : Reader α) (s : String) : Except Failure α := do
  let (document, further) := Document.ofText s.toList
  let (a, _) ← body ⟨document, [], depthLimit⟩ ⟨0, 0⟩
  match document.failure with
  | some failure => throw failure
  | none => if further then throw .severalDocuments else return a

end Yaml

end RestCall

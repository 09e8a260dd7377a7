import RestCall.Yaml.Token
/-!
# RestCall — YAML events

The nodes of a document in the order in which they begin and end: scalars,
aliases, and the beginnings and ends of collections. A node that is left
out is an empty plain scalar. The events found before a fault are kept,
because what is read from them may be refused for its shape first.
-/

namespace RestCall

namespace Yaml

/-- What a node carries besides its content. -/
structure Properties where
  anchor : Option (List Char)
  tag : Option (List Char)

/-- A node without properties. -/
def Properties.none : Properties := ⟨.none, .none⟩

/-- The beginning or the end of a node. -/
inductive Event where
  | alias (name : List Char)
  | scalar (properties : Properties) (text : List Char) (style : Style)
  | openSequence (properties : Properties)
  | closeSequence
  | openMapping (properties : Properties)
  | closeMapping

/-- The state of reading events: the tokens left and the fault behind the
last of them, what the handles of tags stand for, and the events so far. -/
structure Outline where
  tokens : List Token
  fault : Option Fault
  handles : List (List Char × List Char)
  events : Array (Event × Mark)

/-- A computation on the state. It keeps the events when it fails. -/
abbrev Events := EStateM Fault Outline

namespace Events

/-- The next token, which is not consumed. -/
def peek : Events Token := do
  let s ← get
  match s.tokens with
  | t :: _ => return t
  | [] => throw (s.fault.getD ⟨.noContent, .zero, none⟩)

/-- Consumes a token. -/
def skip : Events Unit := modify fun s => { s with tokens := s.tokens.tail }

/-- Adds an event. -/
def emit (event : Event) (mark : Mark) : Events Unit :=
  modify fun s => { s with events := s.events.push (event, mark) }

/-- Adds a node that is left out. -/
def emitEmpty (mark : Mark) : Events Unit := emit (.scalar .none [] .plain) mark

/-- Fails at a place. -/
def fail {α : Type} (cause : Cause) (place : Mark) (activity : Activity) (start : Mark) :
    Events α := throw ⟨cause, place, some (activity, start)⟩

/-! ## Properties -/

/-- A tag with what its handle stands for. -/
def resolveTag (start : Mark) (mark : Mark) (handle suffix : List Char) : Events (List Char) := do
  if handle.isEmpty then return suffix
  else match (← get).handles.find? fun (h, _) => h == handle with
    | some (_, base) => return base ++ suffix
    | none => fail .unknownHandle mark .node start

/-- Reads the properties of a node, the anchor and the tag in either order. -/
def properties : Events Properties := do
  let first ← peek
  let later (mark : Mark) (handle suffix : List Char) : Events (List Char) := do
    let _ ← peek
    resolveTag first.start mark handle suffix
  match first.kind with
  | .anchor name => do
    skip
    let second ← peek
    match second.kind with
    | .tag handle suffix => do
      skip
      return ⟨some name, some (← later second.start handle suffix)⟩
    | _ => return ⟨some name, .none⟩
  | .tag handle suffix => do
    skip
    let second ← peek
    match second.kind with
    | .anchor name => do
      skip
      return ⟨some name, some (← later first.start handle suffix)⟩
    | _ => return ⟨.none, some (← later first.start handle suffix)⟩
  | _ => return .none

/-! ## Nodes -/

/-- Whether a token ends an entry of a mapping in block form. -/
def endsEntry : Token.Kind → Bool
  | .key => true
  | .value => true
  | .blockEnd => true
  | _ => false

/-- Whether a token ends an item of a sequence that stands at the
indentation of the mapping around it. -/
def endsItem : Token.Kind → Bool
  | .dash => true
  | k => endsEntry k

mutual

/-- Reads a node. `inBlock` admits collections in block form, and `flush` a
sequence at the indentation of the mapping around it. -/
def node (inBlock flush : Bool) : (count : Nat) → Events Unit
  | 0 => return ()
  | count + 1 => do
    let first ← peek
    match first.kind with
    | .alias name => do
      emit (.alias name) first.start
      skip
    | _ => do
      let p ← properties
      let t ← peek
      match t.kind, inBlock, flush with
      | .dash, _, true => do
        emit (.openSequence p) first.start
        flushItems count
      | .scalar text style, _, _ => do
        emit (.scalar p text style) first.start
        skip
      | .openSequence, _, _ => do
        emit (.openSequence p) first.start
        skip
        flowItems t.start true count
      | .openMapping, _, _ => do
        emit (.openMapping p) first.start
        skip
        flowEntries t.start true count
      | .blockSequence, true, _ => do
        emit (.openSequence p) first.start
        skip
        blockItems t.start count
      | .blockMapping, true, _ => do
        emit (.openMapping p) first.start
        skip
        blockEntries t.start count
      | _, _, _ =>
        if p.anchor.isSome || p.tag.isSome then emit (.scalar p [] .plain) first.start
        else fail .noContent t.start (if inBlock then .blockNode else .flowNode) first.start

/-- Reads the items of a sequence in block form. -/
def blockItems (start : Mark) : (count : Nat) → Events Unit
  | 0 => return ()
  | count + 1 => do
    let t ← peek
    match t.kind with
    | .dash => do
      skip
      match (← peek).kind with
      | .dash => emitEmpty t.stop
      | .blockEnd => emitEmpty t.stop
      | _ => node true false count
      blockItems start count
    | .blockEnd => do
      emit .closeSequence t.start
      skip
    | _ => fail .noDash t.start .blockSequence start

/-- Reads the items of a sequence at the indentation of a mapping. -/
def flushItems : (count : Nat) → Events Unit
  | 0 => return ()
  | count + 1 => do
    let t ← peek
    match t.kind with
    | .dash => do
      skip
      if endsItem (← peek).kind then emitEmpty t.stop else node true false count
      flushItems count
    | _ => emit .closeSequence t.start

/-- Reads the entries of a mapping in block form. -/
def blockEntries (start : Mark) : (count : Nat) → Events Unit
  | 0 => return ()
  | count + 1 => do
    let t ← peek
    match t.kind with
    | .key => do
      skip
      if endsEntry (← peek).kind then emitEmpty t.stop else node true true count
      blockValue count
      blockEntries start count
    | .blockEnd => do
      emit .closeMapping t.start
      skip
    | _ => fail .noKey t.start .blockMapping start

/-- Reads the value of an entry in block form. -/
def blockValue : (count : Nat) → Events Unit
  | 0 => return ()
  | count + 1 => do
    let t ← peek
    match t.kind with
    | .value => do
      skip
      if endsEntry (← peek).kind then emitEmpty t.stop else node true true count
    | _ => emitEmpty t.start

/-- Reads the items of a sequence in flow form. -/
def flowItems (start : Mark) (isFirst : Bool) : (count : Nat) → Events Unit
  | 0 => return ()
  | count + 1 => do
    let close (t : Token) : Events Unit := do
      emit .closeSequence t.start
      skip
    let item (t : Token) : Events Unit := do
      match t.kind with
      | .key => do
        emit (.openMapping .none) t.start
        skip
        pairKey count
        flowItems start false count
      | .closeSequence => close t
      | _ => do
        node false false count
        flowItems start false count
    let t ← peek
    match t.kind, isFirst with
    | .closeSequence, _ => close t
    | _, true => item t
    | .comma, false => do
      skip
      item (← peek)
    | _, false => fail .noSequenceComma t.start .flowSequence start

/-- Reads a single pair among the items of a sequence. -/
def pairKey : (count : Nat) → Events Unit
  | 0 => return ()
  | count + 1 => do
    let t ← peek
    match t.kind with
    | .value => do
      skip
      emitEmpty t.stop
    | .comma => do
      skip
      emitEmpty t.stop
    | .closeSequence => do
      skip
      emitEmpty t.stop
    | _ => node false false count
    let t ← peek
    match t.kind with
    | .value => do
      skip
      let t ← peek
      match t.kind with
      | .comma => emitEmpty t.start
      | .closeSequence => emitEmpty t.start
      | _ => node false false count
    | _ => emitEmpty t.start
    emit .closeMapping (← peek).start

/-- Reads the entries of a mapping in flow form. -/
def flowEntries (start : Mark) (isFirst : Bool) : (count : Nat) → Events Unit
  | 0 => return ()
  | count + 1 => do
    let close (t : Token) : Events Unit := do
      emit .closeMapping t.start
      skip
    let entry (t : Token) : Events Unit := do
      match t.kind with
      | .key => do
        skip
        let t ← peek
        match t.kind with
        | .value => emitEmpty t.start
        | .comma => emitEmpty t.start
        | .closeMapping => emitEmpty t.start
        | _ => node false false count
        flowValue count
        flowEntries start false count
      | .closeMapping => close t
      | _ => do
        node false false count
        emitEmpty (← peek).start
        flowEntries start false count
    let t ← peek
    match t.kind, isFirst with
    | .closeMapping, _ => close t
    | _, true => entry t
    | .comma, false => do
      skip
      entry (← peek)
    | _, false => fail .noMappingComma t.start .flowMapping start

/-- Reads the value of an entry in flow form. -/
def flowValue : (count : Nat) → Events Unit
  | 0 => return ()
  | count + 1 => do
    let t ← peek
    match t.kind with
    | .value => do
      skip
      let t ← peek
      match t.kind with
      | .comma => emitEmpty t.start
      | .closeMapping => emitEmpty t.start
      | _ => node false false count
    | _ => emitEmpty t.start

end

/-! ## Documents -/

/-- Reads the directives before a document. -/
def directives : (count : Nat) → (version : Bool) → Events Unit
  | 0, _ => return ()
  | count + 1, version => do
    let t ← peek
    match t.kind with
    | .directive (.version major minor) => do
      if version then throw ⟨.repeatedVersion, t.start, none⟩
      if major ≠ 1 || (minor ≠ 1 && minor ≠ 2) then throw ⟨.wrongVersion, t.start, none⟩
      skip
      directives count true
    | .directive (.tag handle base) => do
      if (← get).handles.any (·.1 == handle) then throw ⟨.repeatedHandle, t.start, none⟩
      modify fun s => { s with handles := s.handles ++ [(handle, base)] }
      skip
      directives count version
    | _ => return ()

/-- The handles that need no declaration; a declaration comes before them. -/
def standardHandles : List (List Char × List Char) :=
  [(['!'], ['!']), (['!', '!'], "tag:yaml.org,2002:".toList)]

/-- Adds the handles that need no declaration. -/
def addStandard : Events Unit :=
  modify fun s => { s with handles := s.handles ++ standardHandles }

/-- How a document begins. -/
inductive Opening where
  | bare
  | marked

/-- Reads the beginning of a document, if there is one. Only the first may
begin without a marker. -/
def openDocument (isFirst : Bool) : Events (Option Opening) := do
  modify fun s => { s with handles := [] }
  if !isFirst then
    modify fun s => { s with tokens := s.tokens.dropWhile fun t => t.kind matches .documentEnd }
  let opening ← match (← peek).kind with
    | .ended => return none
    | .directive _ => pure .marked
    | .documentStart => pure .marked
    | _ => pure (if isFirst then .bare else .marked)
  match opening with
  | .bare => addStandard
  | .marked => do
    directives ((← get).tokens.length + 1) false
    let t ← peek
    match t.kind with
    | .documentStart => do
      addStandard
      skip
    | _ => throw ⟨.noDocumentStart, t.start, none⟩
  return some opening

/-- Reads the root of a document, which may be left out behind a marker. -/
def root (opening : Opening) : Events Unit := do
  let whole : Events Unit := do node true false (3 * (← get).tokens.length + 4)
  match opening with
  | .bare => whole
  | .marked => do
    let t ← peek
    match t.kind with
    | .directive _ => emitEmpty t.start
    | .documentStart => emitEmpty t.start
    | .documentEnd => emitEmpty t.start
    | .ended => emitEmpty t.start
    | _ => whole

/-- Reads the end of a document. -/
def closeDocument : Events Unit := do
  match (← peek).kind with
  | .documentEnd => skip
  | _ => return ()

end Events

end Yaml

end RestCall

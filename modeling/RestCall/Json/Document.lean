import RestCall.Json.Parser
import RestCall.Shape.Source
/-!
# RestCall — JSON texts as documents

Records are read from a JSON text as it is read, so the first thing that
is wrong is reported, be it the text or the shape. A record may be given
as an object or as a list of its fields in order; unknown members of an
object are skipped.
-/

namespace RestCall

namespace Json

open Shape (Misfit Found IntegerKind Record Content)

/-- What a number is when it was not wanted. -/
def Number.found : Number → Found
  | .integer n => .integer n
  | .float x => .float x

/-- Any value as the meaning of a text. -/
def Meaning.contents : Meaning Content where
  null := .empty
  bool := .flag
  number := fun
    | .integer n => .integer n
    | .float x => .float x
  string := .text
  array := .list
  object := fun members => .map (members.map fun (k, v) => (.text k, v))

namespace Reader

/-- Refuses the value that comes next. One that holds no others is read
first, so a fault of its text is reported instead. -/
def unexpected {α : Type} (expected : String) : Reader α := do
  let refuse (found : Found) : Reader α := throw (.loose (.wrongType found expected))
  match ← peekToken with
  | none => failNext .endInValue
  | some 0x6E => do
    advance
    word ['u', 'l', 'l']
    refuse .empty
  | some 0x74 => do
    advance
    word ['r', 'u', 'e']
    refuse (.flag true)
  | some 0x66 => do
    advance
    word ['a', 'l', 's', 'e']
    refuse (.flag false)
  | some 0x2D => do
    advance
    refuse (← number true).found
  | some 0x22 => do
    advance
    refuse (.text (← stringBody))
  | some 0x5B => refuse .sequence
  | some 0x7B => refuse .map
  | some b => if isDigit b then refuse (← number false).found else failNext .noValue

/-- A string. -/
def textValue : Reader String := located do
  match ← peekToken with
  | some 0x22 => do
    advance
    stringBody
  | _ => unexpected "a string"

/-- A truth value. -/
def flagValue : Reader Bool := located do
  match ← peekToken with
  | some 0x74 => do
    advance
    word ['r', 'u', 'e']
    return true
  | some 0x66 => do
    advance
    word ['a', 'l', 's', 'e']
    return false
  | _ => unexpected "a boolean"

/-- A number that has to be of the given kind. -/
def admitted (kind : IntegerKind) : Number → Reader Int
  | .integer n =>
    match kind.admit n with
    | .ok n => return n
    | .error m => throw (.loose m)
  | .float x => throw (.loose (.wrongType (.float x) kind.name))

/-- A whole number of a kind. -/
def integerValue (kind : IntegerKind) : Reader Int := located do
  match ← peekToken with
  | some 0x2D => do
    advance
    admitted kind (← number true)
  | some b =>
    if isDigit b then do
      let n ← number false
      admitted kind n
    else unexpected kind.name
  | none => unexpected kind.name

/-- A value or `null`. -/
def optionalValue {α : Type} (read : Reader α) : Reader (Option α) := do
  match ← peekToken with
  | some 0x6E => do
    advance
    word ['u', 'l', 'l']
    return none
  | _ => return some (← read)

/-- A list of values. -/
def listValue {α : Type} (read : Reader α) : Reader (List α) := located do
  match ← peekToken with
  | some 0x5B => list read
  | _ => unexpected "a sequence"

/-! ## Skipped values -/

/-- Goes on after a value inside the containers that are open, innermost
first (`true` for an object): closes those that end, and stops before the
next value, with the containers it lies in. `accept` tells that a comma may
follow. -/
def untilValue : (count : Nat) → (accept : Bool) → (enclosing : Bool) → List Bool →
    Reader (Option (List Bool))
  | 0, _, _, _ => failNext .noValue
  | count + 1, accept, inner, outer => do
    let next ← peekToken
    match next with
    | none => failNext (if inner then .endInObject else .endInList)
    | some b =>
      if accept && b == 0x2C then do
        advance
        return some (inner :: outer)
      else if b == (if inner then 0x7D else 0x5D) then do
        advance
        match outer with
        | [] => return none
        | next :: rest => untilValue count true next rest
      else if accept then failNext (if inner then .noObjectSeparator else .noListSeparator)
      else return some (inner :: outer)

/-- Moves past the key of a member and its colon. -/
def skipKey : Reader Unit := do
  match ← peekToken with
  | some 0x22 => advance
  | some _ => failNext .keyNotString
  | none => failNext .endInObject
  skipString (← bound)
  colon

/-- Moves past a value inside the given open containers, and past all that
follows in them. The count bounds the values left. -/
def skipWithin : (count : Nat) → List Bool → Reader Unit
  | 0, _ => failNext .noValue
  | count + 1, enclosing => do
    let closing (accept : Bool) : List Bool → Reader (Option (List Bool))
      | [] => return none
      | inner :: outer => do untilValue (← bound) accept inner outer
    let further ← match ← peekToken with
      | none => failNext .endInValue
      | some 0x6E => do
        advance
        word ['u', 'l', 'l']
        closing true enclosing
      | some 0x74 => do
        advance
        word ['r', 'u', 'e']
        closing true enclosing
      | some 0x66 => do
        advance
        word ['a', 'l', 's', 'e']
        closing true enclosing
      | some 0x2D => do
        advance
        skipNumber
        closing true enclosing
      | some 0x22 => do
        advance
        skipString (← bound)
        closing true enclosing
      | some 0x5B => do
        advance
        closing false (false :: enclosing)
      | some 0x7B => do
        advance
        closing false (true :: enclosing)
      | some b =>
        if isDigit b then do
          skipNumber
          closing true enclosing
        else failNext .noValue
    match further with
    | none => return ()
    | some enclosing =>
      if enclosing.head? == some true then skipKey
      skipWithin count enclosing

/-- Moves past a value, whatever it is. -/
def skipValue : Reader Unit := do skipWithin (← bound) []

/-! ## Records -/

/-- The fields of a record in their order, as far as the list goes; the
position of the first is given. -/
def fieldsInOrder {σ : Type} (r : Record Reader σ) :
    List (Shape.Field Reader σ) → Nat → Bool → σ → Reader σ
  | [], _, _, s => return s
  | f :: rest, index, first, s => do
    if ← anotherItem first then do
      let s' ← f.read s
      fieldsInOrder r rest (index + 1) false s'
    else if f.required then throw (.loose (.wrongLength index r.lengthTitle))
    else fieldsInOrder r rest (index + 1) first s

/-- One member of a record given as an object. -/
def recordMember {σ : Type} (r : Record Reader σ) (key : String) (state : List String × σ) :
    Reader (List String × σ) := do
  let (seen, s) := state
  match r.field? key with
  | none => do
    colon
    skipValue
    return (seen, s)
  | some f =>
    if seen.contains key then throw (.loose (.duplicateField key))
    else do
      colon
      let s' ← f.read s
      return (key :: seen, s')

/-- A record. -/
def recordValue {σ : Type} (r : Record Reader σ) : Reader σ := located do
  match ← peekToken with
  | some 0x5B => enclosed (fieldsInOrder r r.fields 0 true r.start) endOfList
  | some 0x7B =>
    enclosed
      (do
        let (seen, s) ← members (recordMember r) (← bound) true ([], r.start)
        match r.missing? seen with
        | some name => throw (.loose (.missingField name))
        | none => return s)
      endOfObject
  | _ => unexpected r.title

end Reader

/-- JSON texts are documents. -/
instance : Shape.Source Reader where
  text := Reader.textValue
  flag := Reader.flagValue
  integer := Reader.integerValue
  optional := Reader.optionalValue
  list := Reader.listValue
  record := Reader.recordValue
  content := Reader.anyValue .contents
  refuse := fun m => throw (.loose m)

end Json

end RestCall

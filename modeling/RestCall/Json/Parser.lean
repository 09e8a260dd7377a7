import RestCall.Json.Lexeme
/-!
# RestCall — reading JSON texts

Lists and objects are read by loops over any way to read what they hold,
so the same loops serve values, records and skipped parts. A whole value
is read into any type that offers a meaning for each kind of value; the
JSON values are one such type.
-/

namespace RestCall

namespace Json

namespace Reader

/-- Whether another item of a list follows; `first` tells that none has
been read. -/
def anotherItem (first : Bool) : Reader Bool := do
  match ← peekToken with
  | none => failNext .endInList
  | some 0x5D => return false
  | some b =>
    if first then return true
    else if b == 0x2C then do
      advance
      match ← peekToken with
      | none => failNext .endInValue
      | some 0x5D => failNext .trailingComma
      | some _ => return true
    else failNext .noListSeparator

/-- The end of a list. -/
def endOfList : Reader Unit := do
  match ← peekToken with
  | none => failNext .endInList
  | some 0x5D => advance
  | some 0x2C => do
    advance
    match ← peekToken with
    | some 0x5D => failNext .trailingComma
    | _ => failNext .trailingCharacters
  | some _ => failNext .trailingCharacters

/-- The items of a list up to its end, added in reverse to those already
read. The count bounds the items left. -/
def items {α : Type} (read : Reader α) : (count : Nat) → List α → Reader (List α)
  | 0, _ => failNext .endInList
  | count + 1, done => do
    if ← anotherItem done.isEmpty then do
      let item ← read
      items read count (item :: done)
    else return done.reverse

/-- A list whose opening bracket comes next. -/
def list {α : Type} (read : Reader α) : Reader (List α) :=
  enclosed (do items read (← bound) []) endOfList

/-- The key of the next member of an object, if another follows; `first`
tells that none has been read. -/
def nextKey (first : Bool) : Reader (Option String) := do
  match ← peekToken with
  | none => failNext .endInObject
  | some 0x7D => return none
  | some b =>
    if first then
      if b == 0x22 then do
        advance
        return some (← stringBody)
      else failNext .keyNotString
    else if b == 0x2C then do
      advance
      match ← peekToken with
      | some 0x22 => do
        advance
        return some (← stringBody)
      | some 0x7D => failNext .trailingComma
      | some _ => failNext .keyNotString
      | none => failNext .endInValue
    else failNext .noObjectSeparator

/-- The colon between a key and its value. -/
def colon : Reader Unit := do
  match ← peekToken with
  | none => failNext .endInObject
  | some 0x3A => advance
  | some _ => failNext .noColon

/-- The end of an object. -/
def endOfObject : Reader Unit := do
  match ← peekToken with
  | none => failNext .endInObject
  | some 0x7D => advance
  | some 0x2C => failNext .trailingComma
  | some _ => failNext .trailingCharacters

/-- The members of an object up to its end. Each is handed, by its key, to
a step that reads the colon and the value. The count bounds the members
left. -/
def members {σ : Type} (step : String → σ → Reader σ) : (count : Nat) → Bool → σ → Reader σ
  | 0, _, _ => failNext .endInObject
  | count + 1, first, s => do
    match ← nextKey first with
    | none => return s
    | some key => do
      let s' ← step key s
      members step count false s'

/-- An object whose opening brace comes next. -/
def object {σ : Type} (step : String → σ → Reader σ) (start : σ) : Reader σ :=
  enclosed (do members step (← bound) true start) endOfObject

end Reader

/-- A meaning in `α` for each kind of JSON value. Members come in the order
of the text, with every repetition. -/
structure Meaning (α : Type) where
  null : α
  bool : Bool → α
  number : Number → α
  string : String → α
  array : List α → α
  object : List (String × α) → α

/-- JSON values as the meaning of a text. -/
def Meaning.values : Meaning Json where
  null := .null
  bool := .bool
  number := .number
  string := .string
  array := .array
  object := fun members => .object (collect members)

namespace Reader

/-- Reads a value, with containers nested at most as deep as the bound. -/
def value {α : Type} (mean : Meaning α) : (bound : Nat) → Reader α
  | 0 => failNext .tooDeep
  | bound + 1 => do
    match ← peekToken with
    | none => failNext .endInValue
    | some 0x6E => do
      advance
      word ['u', 'l', 'l']
      return mean.null
    | some 0x74 => do
      advance
      word ['r', 'u', 'e']
      return mean.bool true
    | some 0x66 => do
      advance
      word ['a', 'l', 's', 'e']
      return mean.bool false
    | some 0x2D => do
      advance
      return mean.number (← number true)
    | some 0x22 => do
      advance
      return mean.string (← stringBody)
    | some 0x5B => return mean.array (← list (value mean bound))
    | some 0x7B =>
      let step (key : String) (done : List (String × α)) : Reader (List (String × α)) := do
        colon
        let v ← value mean bound
        return (key, v) :: done
      return mean.object (← object step []).reverse
    | some b => if isDigit b then return mean.number (← number false) else failNext .noValue

/-- Reads a value at the current depth. -/
def anyValue {α : Type} (mean : Meaning α) : Reader α := do value mean (← get).depth

/-- The end of a text: only white space may follow the value. -/
def endOfText : Reader Unit := do
  match ← peekToken with
  | none => return ()
  | some _ => failNext .trailingCharacters

/-- What a whole text is read as. -/
def run {α : Type} (read : Reader α) (bytes : Bytes) : Except Failure α :=
  match (do let a ← read; endOfText; return a : Reader α) (Cursor.start bytes) with
  | .ok a _ => .ok a
  | .error e _ => .error e

end Reader

/-- The value of a JSON text given as bytes. -/
def parseBytes (bytes : Bytes) : Except Failure Json := (Reader.anyValue .values).run bytes

/-- The value of a JSON text. -/
def parse (s : String) : Except Failure Json := parseBytes (Utf8.ofString s)

end Json

end RestCall

import RestCall.Yaml.Property
import RestCall.Yaml.Scalar
/-!
# RestCall — YAML tokens

Tokens show the structure that indentation gives to a text: a collection
in block form begins with a token of its own and ends with one. That a
scalar is a key shows only at the colon behind it, so the token for the
key, and that for a mapping it begins, are put in before tokens already
read. A token is therefore handed out only when nothing can come before
it any more, and a fault further on is met only once the tokens before it
are used up.
-/

namespace RestCall

namespace Yaml

/-- What a token stands for. -/
inductive Token.Kind where
  | directive (d : Directive)
  | documentStart
  | documentEnd
  | blockSequence
  | blockMapping
  | blockEnd
  | openSequence
  | closeSequence
  | openMapping
  | closeMapping
  | dash
  | comma
  | key
  | value
  | alias (name : List Char)
  | anchor (name : List Char)
  | tag (handle suffix : List Char)
  | scalar (text : List Char) (style : Style)
  | ended

/-- A token and the place where it stands. -/
structure Token where
  kind : Token.Kind
  start : Mark
  stop : Mark

/-- A token that may turn out to begin a key: its number and its place. It
has to be a key when it stands at the indentation of a mapping. -/
structure Candidate where
  number : Nat
  mark : Mark
  isKey : Bool

/-- The state of reading tokens: what is left of the text, the tokens read
and how many of them are handed out, the columns of the open block
collections, innermost first, and the candidates for a key, one per open
flow collection and one outside of them. -/
structure Scanner where
  cursor : Cursor
  tokens : Array Token
  taken : Nat
  columns : List Nat
  outer : Option Candidate
  flows : List (Option Candidate)
  keyAllowed : Bool

/-- The beginning of a text. -/
def Scanner.start (cs : List Char) : Scanner :=
  ⟨⟨cs, .zero⟩, #[], 0, [], none, [], true⟩

namespace Scanner

/-- Whether a flow collection is open. -/
def inFlow (s : Scanner) : Bool := !s.flows.isEmpty

/-- The candidate of the innermost collection. -/
def candidate? (s : Scanner) : Option Candidate :=
  match s.flows with
  | [] => s.outer
  | c :: _ => c

/-- Replaces the candidate of the innermost collection. -/
def setCandidate (c : Option Candidate) (s : Scanner) : Scanner :=
  match s.flows with
  | [] => { s with outer := c }
  | _ :: rest => { s with flows := c :: rest }

/-- A token behind all others. -/
def push (kind : Token.Kind) (start stop : Mark) (s : Scanner) : Scanner :=
  { s with tokens := s.tokens.push ⟨kind, start, stop⟩ }

/-- A token without extent before the one of a number. -/
def put (number : Nat) (kind : Token.Kind) (mark : Mark) (s : Scanner) : Scanner :=
  { s with
    tokens := s.tokens.extract 0 number ++ #[⟨kind, mark, mark⟩] ++
      s.tokens.extract number s.tokens.size }

/-- Closes the block collections right of a column, all of them without
one. -/
def closeBlocks (column : Option Nat) (s : Scanner) : Scanner :=
  if s.inFlow then s
  else
    let isInner (c : Nat) : Bool := column.all (· < c)
    let closed := (s.columns.takeWhile isInner).map fun _ =>
      (⟨.blockEnd, s.cursor.mark, s.cursor.mark⟩ : Token)
    { s with tokens := s.tokens ++ closed, columns := s.columns.dropWhile isInner }

/-- Opens a block collection at a column right of the open ones. Its token
is put before the one of the given number, if there is one. -/
def openBlock (kind : Token.Kind) (mark : Mark) (number : Option Nat) (s : Scanner) : Scanner :=
  if s.inFlow || !s.columns.head?.all (· < mark.column) then s
  else
    let s := { s with columns := mark.column :: s.columns }
    s.put (number.getD s.tokens.size) kind mark

end Scanner

/-- A computation on the state. -/
abbrev Tokens := StateT Scanner (Except Fault)

namespace Tokens

/-- A computation on the cursor. -/
def read {α : Type} (scan : Scan α) : Tokens α := fun s => do
  let (a, cursor) ← scan s.cursor
  return (a, { s with cursor })

/-- The place reached. -/
def here : Tokens Mark := do return (← get).cursor.mark

/-- Fails at the place reached. -/
def fail {α : Type} (cause : Cause) (during : Option (Activity × Mark)) : Tokens α := do
  throw ⟨cause, ← here, during⟩

/-! ## Candidates for a key -/

/-- A candidate given up; one that has to be a key is a fault. -/
def giveUp (c : Candidate) : Tokens (Option Candidate) := do
  if c.isKey then fail .noColon (some (.simpleKey, c.mark)) else return none

/-- Gives up the candidate of the innermost collection. -/
def dropCandidate : Tokens Unit := do
  match (← get).candidate? with
  | none => return ()
  | some c => do
    let c ← giveUp c
    modify (Scanner.setCandidate c)

/-- A candidate at the place reached: a key is on one line and has at most
1024 characters before its colon. -/
def current (c : Option Candidate) : Tokens (Option Candidate) := do
  match c with
  | none => return none
  | some c => do
    let mark ← here
    if c.mark.line < mark.line || c.mark.index + 1024 < mark.index then giveUp c
    else return some c

/-- Gives up the candidates that have become too old, outermost first. -/
def dropStale : Tokens Unit := do
  let s ← get
  let outer ← current s.outer
  let flows ← s.flows.reverse.mapM current
  modify fun s => { s with outer, flows := flows.reverse }

/-- Makes the token that comes next a candidate, where a key may stand. -/
def saveCandidate : Tokens Unit := do
  let s ← get
  if s.keyAllowed then do
    let mark := s.cursor.mark
    dropCandidate
    let isKey := !s.inFlow && s.columns.head? == some mark.column
    modify (Scanner.setCandidate (some ⟨s.tokens.size, mark, isKey⟩))

/-- Says whether a key may stand next. -/
def allowKey (allowed : Bool) : Tokens Unit := modify fun s => { s with keyAllowed := allowed }

/-! ## Reading one token -/

/-- Reads a token by a computation on the cursor. -/
def token (scan : Scan Token.Kind) : Tokens Unit := do
  let start ← here
  let kind ← read scan
  let stop ← here
  modify (Scanner.push kind start stop)

/-- Reads a token of the given length. -/
def mark (length : Nat) (kind : Token.Kind) : Tokens Unit :=
  token do
    Scan.skip length
    return kind

/-- Moves to the next token over blanks, comments and line ends. A tab is
no blank where a key may stand in block form, and a byte order mark may
begin a line. -/
def toNext : (count : Nat) → Tokens Unit
  | 0 => return ()
  | count + 1 => do
    let s ← get
    let tabs := s.inFlow || !s.keyAllowed
    read do
      if (← Scan.here).column == 0 && (← Scan.isNext '\uFEFF') then Scan.skip 1
      let _ ← Scan.run fun c => c == ' ' || (tabs && c == '\t')
      if ← Scan.isNext '#' then
        let _ ← Scan.run fun c => !isBreak c
    if (← get).cursor.rest.head?.any isBreak then do
      let _ ← read Scan.endLine
      if !s.inFlow then allowKey true
      toNext count

/-- The end of the text, which ends its last line. -/
def ended : Tokens Unit := do
  modify fun s =>
    let m := s.cursor.mark
    if m.column = 0 then s
    else { s with cursor := { s.cursor with mark := { m with line := m.line + 1, column := 0 } } }
  modify (Scanner.closeBlocks none)
  dropCandidate
  allowKey false
  token (return .ended)

/-- A token that ends all block collections. -/
def outermost (next : Tokens Unit) : Tokens Unit := do
  modify (Scanner.closeBlocks none)
  dropCandidate
  allowKey false
  next

/-- The beginning of a flow collection. -/
def openFlow (kind : Token.Kind) : Tokens Unit := do
  saveCandidate
  modify fun s => { s with flows := none :: s.flows }
  allowKey true
  mark 1 kind

/-- The end of a flow collection. -/
def closeFlow (kind : Token.Kind) : Tokens Unit := do
  dropCandidate
  modify fun s => { s with flows := s.flows.tail }
  allowKey false
  mark 1 kind

/-- Opens a block collection at the place reached, where one may begin. -/
def beginBlock (kind : Token.Kind) (refusal : Cause) : Tokens Unit := do
  let s ← get
  if !s.inFlow then do
    if !s.keyAllowed then fail refusal none
    modify (Scanner.openBlock kind s.cursor.mark none)

/-- An item of a sequence in block form. -/
def dash : Tokens Unit := do
  beginBlock .blockSequence .noSequenceHere
  dropCandidate
  allowKey true
  mark 1 .dash

/-- The indicator of a key. -/
def key : Tokens Unit := do
  beginBlock .blockMapping .noKeyHere
  dropCandidate
  allowKey (!(← get).inFlow)
  mark 1 .key

/-- The colon before a value. It makes the candidate a key. -/
def value : Tokens Unit := do
  match (← get).candidate? with
  | some c => do
    modify fun s => ((s.put c.number .key c.mark).openBlock .blockMapping c.mark
      (some c.number)).setCandidate none
    allowKey false
  | none => do
    beginBlock .blockMapping .noValueHere
    allowKey (!(← get).inFlow)
  mark 1 .value

/-- A token that may begin a key. -/
def mayBeKey (scan : Scan Token.Kind) : Tokens Unit := do
  saveCandidate
  allowKey false
  token scan

/-- A scalar in block form. -/
def blockScalar (isFolded : Bool) : Tokens Unit := do
  dropCandidate
  allowKey true
  let parent := (← get).columns.head?
  token (return .scalar (← Scan.block isFolded parent) (if isFolded then .folded else .literal))

/-- A plain scalar. Behind it a key may stand on a new line. -/
def plainScalar : Tokens Unit := do
  saveCandidate
  allowKey false
  let s ← get
  let column := (s.columns.head?.map (· + 1)).getD 0
  let start ← here
  let (text, onNewLine) ← read (Scan.plain s.inFlow column)
  let stop ← here
  modify (Scanner.push (.scalar text .plain) start stop)
  if onNewLine then allowKey true

/-- Whether a plain scalar may begin with a character. -/
def beginsPlain (inFlow : Bool) (c : Char) (rest : List Char) : Bool :=
  !(isGap c || "-?:,[]\x7b\x7d#&*!|>'\"%@\x60".toList.contains c) ||
    (c == '-' && !rest.head?.any isSpace) ||
    (!inFlow && (c == '?' || c == ':') && !atGap rest)

/-- Reads the next token. -/
def next : Tokens Unit := do
  toNext ((← get).cursor.rest.length + 1)
  dropStale
  modify fun s => s.closeBlocks (some s.cursor.mark.column)
  let s ← get
  match s.cursor.rest with
  | [] => ended
  | c :: rest =>
    let first := s.cursor.mark.column == 0
    let spaced := s.inFlow || atGap rest
    if first && c == '%' then outermost (token (return .directive (← Scan.directive)))
    else if first && isTriple '-' s.cursor.rest then outermost (mark 3 .documentStart)
    else if first && isTriple '.' s.cursor.rest then outermost (mark 3 .documentEnd)
    else if c == '[' then openFlow .openSequence
    else if c == '\x7b' then openFlow .openMapping
    else if c == ']' then closeFlow .closeSequence
    else if c == '\x7d' then closeFlow .closeMapping
    else if c == ',' then do
      dropCandidate
      allowKey true
      mark 1 .comma
    else if c == '-' && atGap rest then dash
    else if c == '?' && spaced then key
    else if c == ':' && spaced then value
    else if c == '*' then mayBeKey (return .alias (← Scan.name .alias))
    else if c == '&' then mayBeKey (return .anchor (← Scan.name .anchor))
    else if c == '!' then
      mayBeKey do
        let (handle, suffix) ← Scan.tag s.inFlow
        return .tag handle suffix
    else if c == '|' && !s.inFlow then blockScalar false
    else if c == '>' && !s.inFlow then blockScalar true
    else if c == '\'' then mayBeKey (return .scalar (← Scan.quoted false) .single)
    else if c == '"' then mayBeKey (return .scalar (← Scan.quoted true) .double)
    else if beginsPlain s.inFlow c rest then plainScalar
    else fail .noTokenStart (some (.token, s.cursor.mark))

/-! ## Reading all tokens -/

/-- Whether a token may still be put before the next one to be handed out. -/
def isOpen : Tokens Bool := do
  let s ← get
  if s.taken == s.tokens.size then return true
  else do
    dropStale
    let s ← get
    return (s.outer :: s.flows).any fun c => c.any (·.number == s.taken)

/-- Hands out the next token, or reads one more. Tells whether the text is
at its end. -/
def turn : Tokens Bool := do
  if ← isOpen then do
    next
    return false
  else do
    let s ← get
    set { s with taken := s.taken + 1 }
    return match s.tokens[s.taken]? with
      | some ⟨.ended, _, _⟩ => true
      | _ => false

/-- The tokens handed out in a number of turns, and the fault met. -/
def turns : (count : Nat) → Scanner → List Token × Option Fault
  | 0, s => ((s.tokens.extract 0 s.taken).toList, none)
  | count + 1, s =>
    match turn s with
    | .error e => ((s.tokens.extract 0 s.taken).toList, some e)
    | .ok (true, s) => ((s.tokens.extract 0 s.taken).toList, none)
    | .ok (false, s) => turns count s

end Tokens

/-- The tokens of a text up to its end or its first fault. A turn reads at
least a character or hands out a token, and there are at most four tokens
to a place where one begins. -/
def tokens (cs : List Char) : List Token × Option Fault :=
  Tokens.turns (6 * (cs.length + 4)) (Scanner.start cs)

end Yaml

end RestCall

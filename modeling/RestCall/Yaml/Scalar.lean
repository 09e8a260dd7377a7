import RestCall.Text.Numeral
import RestCall.Yaml.Cursor
/-!
# RestCall — YAML scalars

A scalar is written plain, between quotes, or as a block of lines. The
gaps inside plain and quoted scalars are folded: blanks within a line
stay, a single line end becomes a space, and of several line ends the
first is dropped. Blocks keep their line ends or fold those between lines
that do not begin with a blank.
-/

namespace RestCall

namespace Yaml

/-- How a scalar is written. -/
inductive Style where
  | plain
  | single
  | double
  | literal
  | folded
deriving Repr, DecidableEq

/-- The gap between two words of a scalar: the blanks up to the end of the
line, and the line ends when there are any. -/
structure Gap where
  blanks : List Char
  lines : Option (List Char × List Char)

/-- No gap. -/
def Gap.none : Gap := ⟨[], Option.none⟩

/-- A line end and those that follow it as one text. -/
def folded (first more : List Char) : List Char :=
  if first = ['\n'] then (if more.isEmpty then [' '] else more) else first ++ more

/-- What a gap is read as. -/
def Gap.text (g : Gap) : List Char :=
  match g.lines with
  | .none => g.blanks
  | some (first, more) => folded first more

/-- A gap with one more line end. -/
def Gap.addLine (g : Gap) (line : List Char) : Gap :=
  match g.lines with
  | .none => ⟨[], some (line, [])⟩
  | some (first, more) => ⟨[], some (first, more ++ line)⟩

namespace Scan

/-- Reads a gap to its end. In a plain scalar that began at the given
place a tab may not stand left of the given column. -/
def gap (column : Nat) (start : Mark) : (count : Nat) → Gap → Scan Gap
  | 0, g => return g
  | count + 1, g => do
    match (← ahead).head? with
    | none => return g
    | some c =>
      if isSpace c then do
        if g.lines.isSome && c == '\t' && (← here).column < column then
          fail .tabInPlain .plain start
        skip 1
        if g.lines.isSome then gap column start count g
        else gap column start count { g with blanks := g.blanks ++ [c] }
      else if isBreak c then do
        let line ← endLine
        gap column start count (g.addLine line)
      else return g

/-! ## Plain scalars -/

/-- How many characters the word at the front has, and whether it is ended
by a colon that may not stand there. -/
def plainLength (inFlow : Bool) : List Char → Nat × Bool
  | [] => (0, false)
  | c :: rest =>
    if isGap c then (0, false)
    else if inFlow && c == ':' && rest.head?.any (fun d => d == '?' || isFlow d) then (0, true)
    else if (c == ':' && atGap rest) || (inFlow && isFlow c) then (0, false)
    else
      let (n, refused) := plainLength inFlow rest
      (n + 1, refused)

/-- Reads on in a plain scalar after a gap. What follows the last word is
returned with the text. -/
def plainFrom (inFlow : Bool) (column : Nat) (start : Mark) :
    (count : Nat) → List Char → Gap → Scan (List Char × Gap)
  | 0, text, g => return (text, g)
  | count + 1, text, g => do
    if (← get).atDocumentMarker || (← isNext '#') then return (text, g)
    else do
      let (n, refused) := plainLength inFlow (← ahead)
      let word := (← ahead).take n
      skip n
      if refused then fail .colonInFlow .plain start
      let text := if word.isEmpty then text else text ++ g.text ++ word
      let g := if word.isEmpty then g else .none
      match (← ahead).head? with
      | none => return (text, g)
      | some c =>
        if !isGap c then return (text, g)
        else do
          let g ← gap column start ((← ahead).length) g
          if !inFlow && (← here).column < column then return (text, g)
          else plainFrom inFlow column start count text g

/-- Reads a plain scalar of a node that has to stand at the given column
or right of it. Tells whether lines were ended behind the last word. -/
def plain (inFlow : Bool) (column : Nat) : Scan (List Char × Bool) := do
  let start ← here
  let (text, g) ← plainFrom inFlow column start ((← ahead).length + 1) [] .none
  return (text, g.lines.isSome)

/-! ## Quoted scalars -/

/-- What an escape sequence stands for. -/
inductive Escape where
  | char (c : Char)
  | digits (n : Nat)

/-- The escape sequence of a letter. -/
def escape? : Char → Option Escape
  | '0' => some (.char '\x00')
  | 'a' => some (.char '\x07')
  | 'b' => some (.char '\x08')
  | 't' => some (.char '\t')
  | '\t' => some (.char '\t')
  | 'n' => some (.char '\n')
  | 'v' => some (.char '\x0b')
  | 'f' => some (.char '\x0c')
  | 'r' => some (.char '\r')
  | 'e' => some (.char '\x1b')
  | ' ' => some (.char ' ')
  | '"' => some (.char '"')
  | '/' => some (.char '/')
  | '\\' => some (.char '\\')
  | 'N' => some (.char '\u0085')
  | '_' => some (.char '\u00a0')
  | 'L' => some (.char '\u2028')
  | 'P' => some (.char '\u2029')
  | 'x' => some (.digits 2)
  | 'u' => some (.digits 4)
  | 'U' => some (.digits 8)
  | _ => none

/-- Reads the character that hexadecimal digits stand for. -/
def codePoint (start : Mark) (n : Nat) : Scan Char := do
  let digits := (← ahead).take n
  let value := digits.foldlM (fun v c => (Numeral.digit? 16 c).map fun d => v * 16 + d) 0
  match value with
  | none => fail .noHexDigit .escape start
  | some v =>
    if digits.length < n then fail .noHexDigit .escape start
    else if h : v.isValidChar then do
      skip n
      return Char.ofNatAux v h
    else fail .noScalarValue .escape start

/-- Reads on in a quoted scalar up to a gap or a quote. Tells whether the
end of the line was escaped. -/
def quotedWord (isDouble : Bool) (start : Mark) : (count : Nat) → List Char → Scan (List Char × Bool)
  | 0, text => return (text, false)
  | count + 1, text => do
    match ← ahead with
    | [] => return (text, false)
    | c :: rest =>
      if isGap c then return (text, false)
      else if !isDouble && c == '\'' then
        if rest.head? == some '\'' then do
          skip 2
          quotedWord isDouble start count (text ++ ['\''])
        else return (text, false)
      else if isDouble && c == '"' then return (text, false)
      else if isDouble && c == '\\' then
        match rest with
        | [] => fail .unknownEscape .escape start
        | d :: _ =>
          if isBreak d then do
            skip 1
            let _ ← endLine
            return (text, true)
          else match escape? d with
            | none => fail .unknownEscape .escape start
            | some (.char e) => do
              skip 2
              quotedWord isDouble start count (text ++ [e])
            | some (.digits n) => do
              skip 2
              let e ← codePoint start n
              quotedWord isDouble start count (text ++ [e])
      else do
        skip 1
        quotedWord isDouble start count (text ++ [c])

/-- Reads on in a quoted scalar up to its closing quote. -/
def quotedFrom (isDouble : Bool) (start : Mark) : (count : Nat) → List Char → Scan (List Char)
  | 0, text => return text
  | count + 1, text => do
    if (← get).atDocumentMarker then fail .documentInQuotes .quoted start
    else if (← ahead).isEmpty then fail .endInQuotes .quoted start
    else do
      let (text, escaped) ← quotedWord isDouble start ((← ahead).length) text
      if ← isNext (if isDouble then '"' else '\'') then return text
      else do
        let opened : Gap := if escaped then ⟨[], some ([], [])⟩ else .none
        let g ← gap 0 start ((← ahead).length) opened
        quotedFrom isDouble start count (text ++ g.text)

/-- Reads a scalar between quotes. -/
def quoted (isDouble : Bool) : Scan (List Char) := do
  let start ← here
  skip 1
  let text ← quotedFrom isDouble start ((← ahead).length + 1) []
  skip 1
  return text

/-! ## Blocks -/

/-- What becomes of the line ends behind a block. -/
inductive Chomping where
  | strip
  | clip
  | keep
deriving DecidableEq

/-- The chomping of an indicator. -/
def chomping? : Char → Option Chomping
  | '+' => some .keep
  | '-' => some .strip
  | _ => none

/-- Reads a chomping indicator, if there is one. -/
def chomping : Scan (Option Chomping) := do
  match (← ahead).head?.bind chomping? with
  | none => return none
  | some c => do
    skip 1
    return some c

/-- Reads an indentation indicator, if there is one. -/
def increment (start : Mark) : Scan (Option Nat) := do
  match (← ahead).head? with
  | none => return none
  | some c =>
    if c == '0' then fail .zeroIndent .block start
    else if c.isDigit then do
      skip 1
      return some (c.toNat - '0'.toNat)
    else return none

/-- Reads the two indicators of a block in either order. -/
def blockHeader (start : Mark) : Scan (Chomping × Option Nat) := do
  match ← chomping with
  | some chomp => return (chomp, ← increment start)
  | none =>
    match ← increment start with
    | some n => return ((← chomping).getD .clip, some n)
    | none => return (.clip, none)

/-- Reads the empty lines before a line of a block. Without a known
indentation the widest line decides: it is returned with the line ends. -/
def emptyLines (start : Mark) (indent : Option Nat) :
    (count widest : Nat) → List Char → Scan (List Char × Nat)
  | 0, widest, ends => return (ends, widest)
  | count + 1, widest, ends => do
    let spaces := ((← ahead).takeWhile (· == ' ')).length
    let column := (← here).column
    skip (match indent with
      | none => spaces
      | some n => min spaces (n - column))
    let column := (← here).column
    let widest := max widest column
    if indent.all (column < ·) && (← isNext '\t') then fail .tabInBlock .block start
    if (← ahead).head?.any isBreak then do
      let line ← endLine
      emptyLines start indent count widest (ends ++ line)
    else return (ends, widest)

/-- What joins two lines of a block: the end of the first and the empty
lines after it. -/
def blockJoin (isFolded : Bool) (line empty : List Char) : List Char :=
  if isFolded && line == ['\n'] then (if empty.isEmpty then [' '] else empty) else line ++ empty

/-- Reads the lines of a block at their indentation. `afterBlank` tells
whether the line before begins with a blank. -/
def blockLines (isFolded : Bool) (start : Mark) (indent : Nat) (chomp : Chomping) :
    (count : Nat) → (text : List Char) → (afterBlank : Bool) → (line empty : List Char) →
      Scan (List Char)
  | 0, text, _, _, _ => return text
  | count + 1, text, afterBlank, line, empty => do
    if (← here).column == indent && !(← ahead).isEmpty then do
      let onBlank := (← ahead).head?.any isSpace
      let text := text ++ blockJoin (isFolded && !afterBlank && !onBlank) line empty
      let content ← run fun c => !isBreak c
      let line ← endLine
      let (empty, _) ← emptyLines start (some indent) ((← ahead).length + 1) 0 []
      blockLines isFolded start indent chomp count (text ++ content) onBlank line empty
    else
      return text ++ (if chomp = .strip then [] else line) ++
        (if chomp = .keep then empty else [])

/-- Reads a scalar written as a block below a node at the given column. -/
def block (isFolded : Bool) (parent : Option Nat) : Scan (List Char) := do
  let start ← here
  skip 1
  let (chomp, n) ← blockHeader start
  skipComment
  if !atLineEnd (← ahead) then fail .noCommentOrBreak .block start
  let _ ← endLine
  let given := n.map fun n => parent.getD 0 + n
  let (empty, widest) ← emptyLines start given ((← ahead).length + 1) 0 []
  let least := (parent.map (· + 1)).getD 1
  let indent := given.getD (max widest least)
  blockLines isFolded start indent chomp ((← ahead).length + 1) [] false [] empty

end Scan

end Yaml

end RestCall

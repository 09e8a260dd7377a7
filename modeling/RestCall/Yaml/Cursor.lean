import RestCall.Yaml.Failure
/-!
# RestCall — a place in a YAML text

A cursor is what is left of a text and the mark of its first character.
Reading a token is a computation on cursors that fails with a fault at the
place it has reached. A line ends with a carriage return, a line feed, the
two together, or one of the three Unicode line ends.
-/

namespace RestCall

namespace Yaml

/-- A place in a text that is being read. -/
structure Cursor where
  rest : List Char
  mark : Mark

/-! ## Classes of characters -/

/-- The end of a line. -/
def isBreak (c : Char) : Bool :=
  c == '\n' || c == '\r' || c == '\u0085' || c == '\u2028' || c == '\u2029'

/-- A space or a tab. -/
def isSpace (c : Char) : Bool := c == ' ' || c == '\t'

/-- A space, a tab or the end of a line. -/
def isGap (c : Char) : Bool := isSpace c || isBreak c

/-- A character of a name. -/
def isWord (c : Char) : Bool := c.isAlphanum || c == '_' || c == '-'

/-- The bracket, brace or comma that delimits a flow collection. -/
def isFlow (c : Char) : Bool :=
  c == ',' || c == '[' || c == ']' || c == '\x7b' || c == '\x7d'

/-- Whether a text is over, or its line is, or a space follows. -/
def atGap : List Char → Bool
  | [] => true
  | c :: _ => isGap c

/-- Whether a text is over, or its line is. -/
def atLineEnd : List Char → Bool
  | [] => true
  | c :: _ => isBreak c

/-- Whether a text begins with three of a character and a gap. -/
def isTriple (c : Char) : List Char → Bool
  | x :: y :: z :: rest => x == c && y == c && z == c && atGap rest
  | _ => false

/-- Whether the marker of a document begins here. -/
def Cursor.atDocumentMarker (c : Cursor) : Bool :=
  c.mark.column == 0 && (isTriple '-' c.rest || isTriple '.' c.rest)

/-! ## Moving on -/

/-- The cursor some characters further on in its line. -/
def Cursor.advance (n : Nat) (c : Cursor) : Cursor :=
  ⟨c.rest.drop n, { c.mark with index := c.mark.index + n, column := c.mark.column + n }⟩

/-- The cursor past the end of a line, when it stands before one. -/
def Cursor.nextLine (c : Cursor) : Cursor :=
  let past (n : Nat) (rest : List Char) : Cursor := ⟨rest, ⟨c.mark.index + n, c.mark.line + 1, 0⟩⟩
  match c.rest with
  | '\r' :: '\n' :: rest => past 2 rest
  | b :: rest => if isBreak b then past 1 rest else c
  | [] => c

/-- What the end of a line is read as: the Unicode separators stand for
themselves, all others for a line feed. -/
def lineEnd : List Char → List Char
  | c :: _ =>
    if c == '\u2028' || c == '\u2029' then [c] else if isBreak c then ['\n'] else []
  | [] => []

/-! ## Computations -/

/-- A computation on cursors. -/
abbrev Scan := StateT Cursor (Except Fault)

namespace Scan

/-- The characters ahead. -/
def ahead : Scan (List Char) := do return (← get).rest

/-- The place reached. -/
def here : Scan Mark := do return (← get).mark

/-- Moves on in the line. -/
def skip (n : Nat) : Scan Unit := modify (Cursor.advance n)

/-- Fails at the place reached. -/
def fail {α : Type} (cause : Cause) (activity : Activity) (start : Mark) : Scan α := do
  throw ⟨cause, ← here, some (activity, start)⟩

/-- Reads the longest run of characters of a class. -/
def run (p : Char → Bool) : Scan (List Char) := do
  let taken := (← ahead).takeWhile p
  skip taken.length
  return taken

/-- Whether the next character is the given one. -/
def isNext (c : Char) : Scan Bool := do return (← ahead).head? == some c

/-- Reads the end of a line. -/
def endLine : Scan (List Char) := do
  let read := lineEnd (← ahead)
  modify Cursor.nextLine
  return read

/-- Moves past spaces and a comment, up to the end of the line. -/
def skipComment : Scan Unit := do
  let _ ← run isSpace
  if ← isNext '#' then
    let _ ← run fun c => !isBreak c

end Scan

end Yaml

end RestCall

import RestCall.Json.Failure
import RestCall.Text.Utf8
/-!
# RestCall — a place in a JSON text

A cursor is what is left of a text together with the position reached and
the number of containers that may still be opened. Reading is a state
computation on cursors that keeps its state when it fails, because the
place of a misfit depends on what is read after it.
-/

namespace RestCall

namespace Json

/-- A place in a text that is being read. The size of the whole text bounds
how many parts anything in it has. -/
structure Cursor where
  rest : Bytes
  line : Nat
  column : Nat
  depth : Nat
  size : Nat

/-- How deep containers may be nested, plus one. -/
def depthLimit : Nat := 128

/-- The beginning of a text. -/
def Cursor.start (bytes : Bytes) : Cursor := ⟨bytes, 1, 0, depthLimit, bytes.length⟩

/-- The cursor one byte further on; at the end it stays. -/
def Cursor.next (c : Cursor) : Cursor :=
  match c.rest with
  | [] => c
  | b :: rest =>
    if b == 0x0A then { c with rest := rest, line := c.line + 1, column := 0 }
    else { c with rest := rest, column := c.column + 1 }

/-- The cursor some bytes further on. -/
def Cursor.skip : Nat → Cursor → Cursor
  | 0, c => c
  | n + 1, c => Cursor.skip n c.next

/-- The position reached. -/
def Cursor.place (c : Cursor) : Position := ⟨c.line, c.column⟩

/-- A reading of a text. -/
abbrev Reader := EStateM Failure Cursor

namespace Reader

/-- The byte at the cursor, which is not consumed. -/
def peek : Reader (Option UInt8) := do return (← get).rest.head?

/-- Moves past a byte. -/
def advance : Reader Unit := modify Cursor.next

/-- The byte at the cursor, which is consumed. -/
def take : Reader (Option UInt8) := do
  let b ← peek
  advance
  return b

/-- Fails at the position reached. -/
def failHere {α : Type} (cause : Cause) : Reader α := do
  throw (.located cause (← get).place)

/-- Fails at the byte that comes next. -/
def failNext {α : Type} (cause : Cause) : Reader α := do
  throw (.located cause (← get).next.place)

/-- Whether a byte is JSON white space. -/
def isSpace (b : UInt8) : Bool := b == 0x20 || b == 0x09 || b == 0x0A || b == 0x0D

/-- The next byte that is not white space, which is not consumed. -/
def peekToken : Reader (Option UInt8) := do
  modify fun c => c.skip (c.rest.takeWhile isSpace).length
  peek

/-- A count that no sequence of parts of the text exceeds. -/
def bound : Reader Nat := do return (← get).size + 1

/-- Fixes the place of a misfit to the position reached. -/
def located {α : Type} (read : Reader α) : Reader α := fun c =>
  match read c with
  | .error (.loose m) c' => .error (.located (.misfit m) c'.place) c'
  | result => result

/-- Reads what a container holds and then its end. The end is read also
after a failure, which moves the place of a misfit past it. -/
def enclosed {α : Type} (body : Reader α) (finish : Reader Unit) : Reader α := fun c =>
  if c.depth ≤ 1 then .error (.located .tooDeep c.next.place) c
  else match body { c.next with depth := c.depth - 1 } with
    | .ok a c' =>
      match finish { c' with depth := c.depth } with
      | .ok _ c'' => .ok a c''
      | .error e c'' => .error e c''
    | .error e c' =>
      match finish { c' with depth := c.depth } with
      | .ok _ c'' => .error e c''
      | .error _ c'' => .error e c''

end Reader

end Json

end RestCall

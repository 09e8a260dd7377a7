import RestCall.Decimal.Reading
import RestCall.Json.Cursor
import RestCall.Json.Value
import RestCall.Text.Numeral
/-!
# RestCall — words, strings and numbers of a JSON text

The parts of a text that hold no others. A string that is only skipped is
held to fewer rules than one whose value is wanted: surrogates need not
pair up, and its bytes are not decoded. So is a skipped number, whose
range does not matter.
-/

namespace RestCall

namespace Json

namespace Reader

/-- The rest of a word whose first letter has been consumed. -/
def word : List Char → Reader Unit
  | [] => return ()
  | c :: rest => do
    match ← take with
    | none => failHere .endInValue
    | some b => if b.toNat == c.toNat then word rest else failHere .noWord

/-! ## Strings -/

/-- The value of four hexadecimal digits. -/
def fourDigits? (bytes : List UInt8) : Option Nat :=
  Numeral.digits? 16 (bytes.map fun b => Char.ofNat b.toNat)

/-- The number of an escape, given as four hexadecimal digits. -/
def hexEscape : Reader Nat := do
  let c ← get
  let digits := c.rest.take 4
  set (c.skip digits.length)
  if digits.length < 4 then failHere .endInString
  else match fourDigits? digits with
    | some n => return n
    | none => failHere .malformedEscape

/-- Consumes a byte that the second half of a surrogate pair begins with. -/
def pairByte (expected : UInt8) : Reader Unit := do
  match ← peek with
  | none => failHere .endInString
  | some b =>
    advance
    if b != expected then failHere .endInEscape

/-- A character given by its number. A surrogate is followed by another
that completes the pair. -/
def numberedEscape : Reader Bytes := do
  let first ← hexEscape
  if 0xDC00 ≤ first && first ≤ 0xDFFF then failHere .loneSurrogate
  else if first < 0xD800 || 0xDBFF < first then
    return String.utf8EncodeChar (Char.ofNat first)
  else do
    pairByte 0x5C
    pairByte 0x75
    let second ← hexEscape
    if second < 0xDC00 || 0xDFFF < second then failHere .loneSurrogate
    else
      let n := (first - 0xD800) * 0x400 + (second - 0xDC00) + 0x10000
      return String.utf8EncodeChar (Char.ofNat n)

/-- The byte that a one-letter escape stands for. -/
def letterEscape? (b : UInt8) : Option UInt8 :=
  match Char.ofNat b.toNat with
  | '\x22' => some 0x22
  | '\\' => some 0x5C
  | '/' => some 0x2F
  | 'b' => some 0x08
  | 'f' => some 0x0C
  | 'n' => some 0x0A
  | 'r' => some 0x0D
  | 't' => some 0x09
  | _ => none

/-- What the escape after a backslash stands for. -/
def escaped : Reader Bytes := do
  match ← take with
  | none => failHere .endInString
  | some b =>
    match letterEscape? b with
    | some value => return [value]
    | none => if b == 0x75 then numberedEscape else failHere .malformedEscape

/-- The bytes of a string up to its closing quote, added in reverse to
those already read. The count bounds the bytes left. -/
def stringBytes : (count : Nat) → Bytes → Reader Bytes
  | 0, _ => failHere .endInString
  | count + 1, read => do
    match ← peek with
    | none => failHere .endInString
    | some b =>
      advance
      if b == 0x22 then return read.reverse
      else if b == 0x5C then do
        let value ← escaped
        stringBytes count (value.reverse ++ read)
      else if b < 0x20 then failHere .controlCharacter
      else stringBytes count (b :: read)

/-- A string whose opening quote has been consumed. Bytes that are no UTF-8
are reported as far before the end of the string as they are from the end
of its value, in which an escape is shorter than in the text. -/
def stringBody : Reader String := do
  let start ← get
  let bytes ← stringBytes (← bound) []
  match Utf8.strict? bytes with
  | some cs => return String.ofList cs
  | none =>
    let length := start.rest.length - (← get).rest.length
    let behind := bytes.length - Utf8.validLength bytes
    throw (.located .illFormedUtf8 (start.skip (length - behind)).place)

/-- Moves past a string whose opening quote has been consumed. -/
def skipString : (count : Nat) → Reader Unit
  | 0 => failHere .endInString
  | count + 1 => do
    match ← peek with
    | none => failHere .endInString
    | some b =>
      if b == 0x22 then advance
      else if b == 0x5C then do
        advance
        match ← take with
        | none => failHere .endInString
        | some e =>
          if (letterEscape? e).isSome then skipString count
          else if e == 0x75 then do
            let _ ← hexEscape
            skipString count
          else failHere .malformedEscape
      else if b < 0x20 then failHere .controlCharacter
      else do
        advance
        skipString count

/-! ## Numbers -/

/-- Whether a byte is a decimal digit. -/
def isDigit (b : UInt8) : Bool := 0x30 ≤ b && b ≤ 0x39

/-- The value of a decimal digit. -/
def digitValue (b : UInt8) : Nat := b.toNat - 0x30

/-- Consumes the digits at the cursor. -/
def digits : Reader (List Nat) := do
  let c ← get
  let ds := c.rest.takeWhile isDigit
  set (c.skip ds.length)
  return ds.map digitValue

/-- Digits taken into a significand as long as it stays below 2^64. The
second part counts the digits that were not. -/
def absorb : (significand : Nat) → List Nat → Nat × Nat
  | n, [] => (n, 0)
  | n, d :: rest =>
    if Numeral.max64 < n * 10 + d then (n, rest.length + 1) else absorb (n * 10 + d) rest

/-- The power of ten as a double. -/
def power (e : Nat) : Float := Float.ofScientific 1 false e

/-- A significand times a power of ten below any that a double can hold,
lowered in steps of 308 as long as something is left. -/
def lowered : (steps : Nat) → Float → Nat → Float
  | 0, _, _ => 0.0
  | steps + 1, x, e =>
    if e ≤ 308 then x / power e
    else if x == 0.0 then x
    else lowered steps (x / power 308) (e - 308)

/-- **A decimal is computed, not searched for.** The significand is rounded
to a double and then multiplied or divided by a power of ten, so the result
may miss the nearest double by the second rounding. `none` is a number
beyond every double. -/
def scaled? (significand : Nat) (exponent : Int) : Option Float :=
  let x := Float.ofNat significand
  if exponent < 0 then some (lowered 4 x exponent.natAbs)
  else if exponent ≤ 308 then
    let y := x * power exponent.natAbs
    if y.isFinite then some y else none
  else if significand = 0 then some x
  else none

/-- The largest exponent that is read to its end. -/
def maxExponent : Nat := 2147483647

/-- A double with the given sign. -/
def signed (negative : Bool) (x : Float) : Float := if negative then -x else x

/-- The double a significand and an exponent make up. -/
def floatOf (negative : Bool) (significand : Nat) (exponent : Int) : Reader Float := do
  match scaled? significand exponent with
  | some x => return signed negative x
  | none => failHere .numberOutOfRange

/-- The digits of an exponent after the first. An exponent beyond every
bound makes the number zero, or is an error at the digit that shows it. -/
def exponentDigits (negative : Bool) (significand : Nat) (start : Int) (raised : Bool) :
    (count : Nat) → Nat → Reader Float
  | 0, e => floatOf negative significand (if raised then start + e else start - e)
  | count + 1, e => do
    match ← peek with
    | some b =>
      if isDigit b then do
        advance
        let value := e * 10 + digitValue b
        if maxExponent < value then
          if significand ≠ 0 ∧ raised = true then failHere .numberOutOfRange
          else do
            let _ ← digits
            return signed negative 0.0
        else exponentDigits negative significand start raised count value
      else floatOf negative significand (if raised then start + e else start - e)
    | none => floatOf negative significand (if raised then start + e else start - e)

/-- The exponent of a number, its mark not yet consumed. -/
def exponent (negative : Bool) (significand : Nat) (start : Int) : Reader Float := do
  advance
  let raised ← match ← peek with
    | some 0x2B => do advance; pure true
    | some 0x2D => do advance; pure false
    | _ => pure true
  match ← take with
  | none => failHere .endInValue
  | some b =>
    if isDigit b then
      exponentDigits negative significand start raised (← bound) (digitValue b)
    else failHere .malformedNumber

/-- Whether a byte is the mark of an exponent. -/
def isExponentMark (b : Option UInt8) : Bool := b == some 0x65 || b == some 0x45

/-- The fraction of a number, its point not yet consumed. -/
def fraction (negative : Bool) (significand : Nat) (start : Int) : Reader Float := do
  advance
  let ds ← digits
  if ds.isEmpty then
    match ← peek with
    | some _ => failNext .malformedNumber
    | none => failNext .endInValue
  else
    let (value, dropped) := absorb significand ds
    let e := start - ((ds.length - dropped : Nat) : Int)
    if isExponentMark (← peek) then exponent negative value e
    else floatOf negative value e

/-- What follows the whole part of a number. A whole part that lost digits
is a double in any case; so is minus zero, and a negative number beyond
63 bits. -/
def afterWhole (negative : Bool) (significand dropped : Nat) : Reader Number := do
  let next ← peek
  if next == some 0x2E then return .float (← fraction negative significand dropped)
  else if isExponentMark next then return .float (← exponent negative significand dropped)
  else if dropped ≠ 0 then return .float (← floatOf negative significand dropped)
  else if negative then
    if significand = 0 ∨ 9223372036854775808 < significand then
      return .float (-(Float.ofNat significand))
    else return .integer (-(significand : Int))
  else return .integer significand

/-- A number whose sign, if any, has been consumed. -/
def number (negative : Bool) : Reader Number := do
  match ← take with
  | none => failHere .endInValue
  | some b =>
    if b == 0x30 then do
      match ← peek with
      | some d => if isDigit d then failNext .malformedNumber else afterWhole negative 0 0
      | none => afterWhole negative 0 0
    else if isDigit b then do
      let (significand, dropped) := absorb (digitValue b) (← digits)
      afterWhole negative significand dropped
    else failHere .malformedNumber

/-- Moves past the exponent of a number, its mark not yet consumed. -/
def skipExponent : Reader Unit := do
  advance
  match ← peek with
  | some 0x2B => advance
  | some 0x2D => advance
  | _ => pure ()
  match ← take with
  | some b => if isDigit b then discard digits else failHere .malformedNumber
  | none => failHere .malformedNumber

/-- Moves past a number whose sign, if any, has been consumed. -/
def skipNumber : Reader Unit := do
  match ← take with
  | none => failHere .malformedNumber
  | some b =>
    if b == 0x30 then do
      match ← peek with
      | some d => if isDigit d then failNext .malformedNumber
      | none => pure ()
    else if isDigit b then discard digits
    else failHere .malformedNumber
  let next ← peek
  if next == some 0x2E then do
    advance
    if (← digits).isEmpty then failNext .malformedNumber
    if isExponentMark (← peek) then skipExponent
  else if isExponentMark next then skipExponent

end Reader

end Json

end RestCall

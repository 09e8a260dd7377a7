import RestCall.Shape.Misfit
/-!
# RestCall — why a JSON text is refused

A text is refused at a position: for a fault of the text itself the place
where it shows, for a misfit the place up to which the value was read.
Lines count from one; a column is the number of bytes read of its line.
-/

namespace RestCall

namespace Json

/-- A place in a text. -/
structure Position where
  line : Nat
  column : Nat
deriving Repr, DecidableEq

/-- What is wrong with a text. -/
inductive Cause where
  | endInValue
  | endInString
  | endInList
  | endInObject
  | noValue
  | noWord
  | noColon
  | noListSeparator
  | noObjectSeparator
  | trailingComma
  | trailingCharacters
  | keyNotString
  | malformedNumber
  | numberOutOfRange
  | malformedEscape
  | endInEscape
  | loneSurrogate
  | controlCharacter
  | illFormedUtf8
  | tooDeep
  | misfit (m : Shape.Misfit)

/-- How JSON names what it found. -/
def wording : Shape.Wording := ⟨"null", Decimal.json⟩

/-- The wording of a cause. -/
def Cause.describe : Cause → String
  | .endInValue => "EOF while parsing a value"
  | .endInString => "EOF while parsing a string"
  | .endInList => "EOF while parsing a list"
  | .endInObject => "EOF while parsing an object"
  | .noValue => "expected value"
  | .noWord => "expected ident"
  | .noColon => "expected `:`"
  | .noListSeparator => "expected `,` or `]`"
  | .noObjectSeparator => "expected `,` or `\x7d`"
  | .trailingComma => "trailing comma"
  | .trailingCharacters => "trailing characters"
  | .keyNotString => "key must be a string"
  | .malformedNumber => "invalid number"
  | .numberOutOfRange => "number out of range"
  | .malformedEscape => "invalid escape"
  | .endInEscape => "unexpected end of hex escape"
  | .loneSurrogate => "lone leading surrogate in hex escape"
  | .controlCharacter => "control character (\\u0000-\\u001F) found while parsing a string"
  | .illFormedUtf8 => "invalid unicode code point"
  | .tooDeep => "recursion limit exceeded"
  | .misfit m => m.describe wording

/-- A refusal: a cause at its place, or a misfit whose place is yet to be
fixed by the value it belongs to. -/
inductive Failure where
  | located (cause : Cause) (place : Position)
  | loose (m : Shape.Misfit)

/-- The wording of a refusal. -/
def Failure.describe : Failure → String
  | .located cause place =>
    cause.describe ++ s!" at line {place.line} column {place.column}"
  | .loose m => m.describe wording

end Json

end RestCall

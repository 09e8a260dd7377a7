import RestCall.Decimal.Layout
import RestCall.Json.Value
/-!
# RestCall — the compact text of a JSON value

No blanks are written. Strings escape the quote, the backslash and the
control characters and nothing else; whole numbers are written in decimal
and doubles in the JSON layout. A second form of the text is in ASCII.
-/

namespace RestCall

namespace Json

/-- A character inside a string. -/
def escape (c : Char) : List Char :=
  match c.toNat with
  | 0x08 => ['\\', 'b']
  | 0x09 => ['\\', 't']
  | 0x0A => ['\\', 'n']
  | 0x0C => ['\\', 'f']
  | 0x0D => ['\\', 'r']
  | 0x22 => ['\\', '\x22']
  | 0x5C => ['\\', '\\']
  | n => if n < 0x20 then ['\\', 'u'] ++ Numeral.hexPadded 4 n else [c]

/-- A string with its quotes. -/
def quote (s : String) : List Char := ['\x22'] ++ s.toList.flatMap escape ++ ['\x22']

/-- A number. -/
def Number.text : Number → String
  | .integer n => toString n
  | .float x => Decimal.render Decimal.json x

mutual

/-- The characters of a value. -/
def chars : Json → List Char
  | .null => "null".toList
  | .bool true => "true".toList
  | .bool false => "false".toList
  | .number n => n.text.toList
  | .string s => quote s
  | .array items => '[' :: itemChars items ++ [']']
  | .object members => '\x7b' :: memberChars members ++ ['\x7d']

/-- The characters of an array's items, with commas between them. -/
def itemChars : List Json → List Char
  | [] => []
  | [v] => v.chars
  | v :: rest => v.chars ++ ',' :: itemChars rest

/-- The characters of an object's members, with commas between them. -/
def memberChars : List (String × Json) → List Char
  | [] => []
  | [(k, v)] => quote k ++ ':' :: v.chars
  | (k, v) :: rest => quote k ++ ':' :: v.chars ++ ',' :: memberChars rest

end

/-- The text of a value. -/
def text (v : Json) : String := String.ofList v.chars

/-! ## ASCII only -/

/-- The escape of a UTF-16 unit. -/
def unitEscape (unit : Nat) : List Char := ['\\', 'u'] ++ Numeral.hexPadded 4 unit

/-- A character of a text in ASCII: others are escaped by their units. -/
def asciiChar (c : Char) : List Char :=
  let n := c.toNat
  if n < 0x80 then [c]
  else if n < 0x10000 then unitEscape n
  else unitEscape (0xD800 + (n - 0x10000) / 0x400) ++ unitEscape (0xDC00 + (n - 0x10000) % 0x400)

/-- The text of a value in ASCII. Beyond ASCII there is nothing outside of
strings, so every character is escaped on its own. -/
def asciiText (v : Json) : String := String.ofList (v.chars.flatMap asciiChar)

end Json

end RestCall

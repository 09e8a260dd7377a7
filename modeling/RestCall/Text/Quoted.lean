import RestCall.Text.Case
import RestCall.Text.Numeral
import RestCall.Text.QuotedTable
/-!
# RestCall — quoted texts

A text is quoted, in messages and in the display of a collection, with
double quotes and with escapes for what would not be seen.
-/

namespace RestCall

namespace Text

/-- Whether a quoted text writes the character as an escape of its number. -/
def isEscaped (c : Char) : Bool :=
  let n := c.toNat
  if n < 0x80 then n < 0x20 || n == 0x7F else inRanges escapedRanges n

/-- A character inside a quoted text. -/
def quoteChar (c : Char) : List Char :=
  match c.toNat with
  | 0 => ['\\', '0']
  | 9 => ['\\', 't']
  | 10 => ['\\', 'n']
  | 13 => ['\\', 'r']
  | 0x22 => ['\\', '\x22']
  | 0x5C => ['\\', '\\']
  | n => if isEscaped c then ['\\', 'u', '\x7b'] ++ Numeral.hex n ++ ['\x7d'] else [c]

/-- A text in double quotes. -/
def quoted (s : String) : String :=
  String.ofList (['\x22'] ++ s.toList.flatMap quoteChar ++ ['\x22'])

end Text

end RestCall

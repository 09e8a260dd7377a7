import RestCall.Text.Blank
/-!
# RestCall — the lines of a text

A line ends at a line feed, and a carriage return just before that line
feed belongs to the end. A last line needs no end of its own, and the
text after a final line feed is no line.
-/

namespace RestCall

namespace Text

/-- A line without the carriage return that its end may carry. -/
def dropReturn (line : List Char) : List Char :=
  match line.reverse with
  | '\r' :: rest => rest.reverse
  | _ => line

/-- The lines of a text: each one that a line feed ends loses a trailing
carriage return; what follows the last line feed counts when non-empty
and is kept as it is. -/
def lines (cs : List Char) : List (List Char) :=
  let pieces := splitOn '\n' cs
  let ended := pieces.dropLast.map dropReturn
  match pieces.getLast? with
  | none => ended
  | some [] => ended
  | some last => ended ++ [last]

end Text

end RestCall

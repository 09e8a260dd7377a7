import RestCall.Text.Blank
import RestCall.Text.Numeral
/-!
# RestCall — tables of characters

A property of characters is a table of runs. A table is written as text, a
word to a run: the number of its first character in hexadecimal, that of
its last one behind a hyphen, or behind a tilde when every other character
is left out, and behind a colon the numbers that the table gives for it.
-/

namespace RestCall

namespace Text

/-- A run of characters, each the same step behind the one before, and the
numbers given for it. -/
structure Run where
  first : Nat
  last : Nat
  step : Nat
  values : List Nat
deriving Repr, DecidableEq

namespace Run

/-- A number as it is written in a table. -/
def number (cs : List Char) : Nat := (Numeral.digits? 16 cs).getD 0

/-- The run that a word stands for. -/
def ofWord (word : List Char) : Run :=
  let (span, values) := match splitFirst (· == ':') word with
    | some (span, values) => (span, (splitOn ',' values).map number)
    | none => (word, [])
  let upTo (mark : Char) (step : Nat) : Option Run :=
    (splitFirst (· == mark) span).map fun (first, last) =>
      ⟨number first, number last, step, values⟩
  ((upTo '-' 1).or (upTo '~' 2)).getD ⟨number span, number span, 1, values⟩

/-- The table that lines of words stand for. -/
def table (lines : List String) : List Run :=
  lines.flatMap fun line => (splitOn ' ' line.toList).map ofWord

/-- Whether a character is in a run. -/
def holds (n : Nat) (r : Run) : Bool :=
  r.first ≤ n && n ≤ r.last && (n - r.first) % r.step == 0

end Run

/-- The run of a table that a character is in. -/
def runOf? (table : List Run) (n : Nat) : Option Run := table.find? (Run.holds n)

/-- Whether a character is in a run of a table. -/
def isIn (table : List Run) (n : Nat) : Bool := (runOf? table n).isSome

end Text

end RestCall

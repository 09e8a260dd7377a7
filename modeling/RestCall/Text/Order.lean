/-!
# RestCall — strings in order

Strings are ordered by their characters, which is the order of their UTF-8
bytes.
-/

namespace RestCall

namespace Text

/-- A string put into a sorted list, before those that are not less. -/
def insertSorted (s : String) : List String → List String
  | [] => [s]
  | t :: rest => if t < s then t :: insertSorted s rest else s :: t :: rest

/-- Strings in order. -/
def sorted (strings : List String) : List String := strings.foldr insertSorted []

end Text

end RestCall

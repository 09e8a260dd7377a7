/-!
# RestCall — lists without repetitions

An item is added to a list unless it is there. Filters and literal
characters are collected in this way, and so are the lines of a body.
-/

namespace RestCall

namespace Collection

variable {α : Type} [BEq α]

/-- A list with an item added at the end unless it is there. -/
def addOnce (items : List α) (item : α) : List α :=
  if items.contains item then items else items ++ [item]

/-- Items of which only the first of equals is kept. -/
def distinct (items : List α) : List α := items.foldl addOnce []

end Collection

end RestCall

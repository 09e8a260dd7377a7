import RestCall.Json.Printer
import RestCall.Text.Numeral
/-!
# RestCall — paths into JSON values

A path such as `list.items[0].name` leads from a value to one inside it.
Its parts stand between dots; a part that is a numeral, and a numeral in
brackets, selects an item of an array, or the member of an object that has
the numeral for its key. A `$.` in front is dropped.
-/

namespace RestCall

namespace Json

/-- A step of a path. -/
inductive Step where
  | key (key : String)
  | index (n : Nat)
deriving Repr, DecidableEq

namespace Step

/-- The position that a numeral stands for. -/
def position? (cs : List Char) : Option Nat := Numeral.natural? 10 Numeral.max64 cs

/-- The steps of the brackets behind a part; `none` when they are malformed.
The count bounds the brackets. -/
def brackets? : (count : Nat) → List Char → Option (List Step)
  | _, [] => some []
  | 0, _ :: _ => none
  | count + 1, c :: rest =>
    if c = '[' then do
      let (inner, after) ← Text.splitFirst (· == ']') rest
      let n ← position? (Text.trim inner)
      let steps ← brackets? count after
      return .index n :: steps
    else none

/-- The steps of one part of a path. -/
def ofPart? (part : List Char) : Option (List Step) :=
  let key := part.takeWhile (· != '[')
  let rest := part.dropWhile (· != '[')
  let first : Option (List Step) :=
    if key.isEmpty then (if rest.isEmpty then none else some [])
    else match position? key with
      | some n => some [.index n]
      | none => some [.key (String.ofList key)]
  do return (← first) ++ (← brackets? rest.length rest)

/-- The steps of a path; `none` when it is malformed. -/
def ofPath? (path : String) : Option (List Step) :=
  let cs := Text.trim path.toList
  let cs := (Text.after? ['$', '.'] cs).getD cs
  if cs.isEmpty then none
  else ((Text.splitOn '.' cs).mapM ofPart?).map List.flatten

/-- The value one step inside a value. -/
def follow? (v : Json) : Step → Option Json
  | .key name =>
    match v with
    | .object members => find? name members
    | _ => none
  | .index n =>
    match v with
    | .array items => items[n]?
    | .object members => find? (toString n) members
    | _ => none

end Step

/-- The value at the end of a path. -/
def at? (v : Json) (path : String) : Option Json := do
  (← Step.ofPath? path).foldlM Step.follow? v

/-- The text of the value at the end of a path: that of a string is the
string itself. -/
def textAt? (v : Json) (path : String) : Option String :=
  (v.at? path).map fun
    | .string s => s
    | other => other.text

/-- What is left of a value after descending through at most as many
objects of one member. -/
def descend : Json → (depth : Nat) → Json
  | .object [(_, v)], depth + 1 => descend v depth
  | v, _ => v

end Json

end RestCall

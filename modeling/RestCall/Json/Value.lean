/-!
# RestCall — JSON values

A value keeps what a text of it shows: the order of an object's members,
and whether a number was whole. Objects are association lists in which
a key occurs once; `Json.insert` keeps the place of a key that is already
there and replaces its value.
-/

namespace RestCall

/-- A number: whole numbers keep all their digits, others are doubles. -/
inductive Json.Number where
  | integer (n : Int)
  | float (x : Float)

/-- A JSON value. -/
inductive Json where
  | null
  | bool (b : Bool)
  | number (n : Json.Number)
  | string (s : String)
  | array (items : List Json)
  | object (members : List (String × Json))

namespace Json

instance : Inhabited Json := ⟨.null⟩

/-- A whole number as a value. -/
def ofInt (n : Int) : Json := .number (.integer n)

/-- A natural number as a value. -/
def ofNat (n : Nat) : Json := ofInt n

/-- A double as a value; JSON has no text for those that are not finite. -/
def ofFloat (x : Float) : Json := if x.isFinite then .number (.float x) else .null

/-- Whether the value is `null`. -/
def isNull : Json → Bool
  | .null => true
  | _ => false

/-- The member of an association list with the given key. -/
def find? {α : Type} (key : String) : List (String × α) → Option α
  | [] => none
  | (k, v) :: rest => if k = key then some v else find? key rest

/-- A member put into an object: a key that is there keeps its place and
takes the new value, another one comes last. -/
def insert {α : Type} (key : String) (value : α) : List (String × α) → List (String × α)
  | [] => [(key, value)]
  | (k, v) :: rest => if k = key then (k, value) :: rest else (k, v) :: insert key value rest

/-- The members of an object, of which later ones replace earlier ones of
the same key. -/
def collect {α : Type} (members : List (String × α)) : List (String × α) :=
  members.foldl (fun acc (k, v) => insert k v acc) []

end Json

end RestCall

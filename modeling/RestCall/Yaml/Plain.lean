import RestCall.Decimal.Reading
import RestCall.Shape.Source
import RestCall.Text.Numeral
/-!
# RestCall — what plain YAML scalars stand for

A plain scalar stands for the empty value, a truth value, a number or
itself. Whole numbers may be written in hexadecimal, octal and binary;
digits with a leading zero are a text.
-/

namespace RestCall

namespace Yaml

open Shape (Found Misfit IntegerKind)

/-- Whether a text is a spelling of the empty value. -/
def isNull (cs : List Char) : Bool :=
  ["null", "Null", "NULL", "~"].contains (String.ofList cs)

/-- The truth value a text stands for. -/
def flag? (cs : List Char) : Option Bool :=
  let s := String.ofList cs
  if ["true", "True", "TRUE"].contains s then some true
  else if ["false", "False", "FALSE"].contains s then some false
  else none

/-- Whether a text is digits with a leading zero, after an optional sign. -/
def isPadded (cs : List Char) : Bool :=
  let digits := match cs with
    | c :: rest => if c == '-' || c == '+' then rest else cs
    | [] => []
  match digits with
  | '0' :: d :: rest => (d :: rest).all Char.isDigit
  | _ => false

/-- The number behind the mark of a radix other than ten. -/
def marked? : List Char → Option Nat
  | '0' :: 'x' :: rest => Numeral.digits? 16 rest
  | '0' :: 'o' :: rest => Numeral.digits? 8 rest
  | '0' :: 'b' :: rest => Numeral.digits? 2 rest
  | _ => none

/-- The natural number a text stands for, of any size. -/
def natural? (cs : List Char) : Option Nat :=
  let digits := match cs with
    | '+' :: rest => rest
    | _ => cs
  (marked? digits).or (if isPadded cs then none else Numeral.digits? 10 digits)

/-- The number with a minus sign a text stands for, of any size. -/
def negative? : List Char → Option Int
  | '-' :: rest =>
    ((marked? rest).or
      (if isPadded ('-' :: rest) then none else Numeral.digits? 10 rest)).map fun n => -(n : Int)
  | _ => none

/-- What a whole number is read as: beyond 64 bits it is no integer of any
kind, and beyond 128 bits none at all. -/
def integer? (cs : List Char) : Option Found :=
  let sized (n : Int) (kind : IntegerKind) (low high : Int) (wide : String) : Option Found :=
    if kind.holds n then some (.integer n)
    else if low ≤ n ∧ n ≤ high then some (.other s!"integer `{n}` as {wide}")
    else none
  match natural? cs with
  | some n => sized n .natural64 0 340282366920938463463374607431768211455 "u128"
  | none =>
    match negative? cs with
    | some n => sized n .integer64 (-170141183460469231731687303715884105728) 0 "i128"
    | none => none

/-- The double a text stands for. -/
def double? (cs : List Char) : Option Float :=
  let (signed, digits) := match cs with
    | '+' :: rest => (true, rest)
    | _ => (false, cs)
  let s := String.ofList cs
  if signed && digits.head?.any (fun c => c == '+' || c == '-') then none
  else if [".inf", ".Inf", ".INF"].contains (String.ofList digits) then some (1.0 / 0.0)
  else if ["-.inf", "-.Inf", "-.INF"].contains s then some (-1.0 / 0.0)
  else if [".nan", ".NaN", ".NAN"].contains s then some (0.0 / 0.0)
  else (Decimal.read? digits).bind fun x => if x.isFinite then some x else none

/-- What a plain scalar stands for. -/
def resolved (cs : List Char) : Found :=
  if cs.isEmpty || isNull cs then .empty
  else match flag? cs with
    | some b => .flag b
    | none =>
      match integer? cs with
      | some found => found
      | none =>
        match if isPadded cs then none else double? cs with
        | some x => .float x
        | none => .text (String.ofList cs)

/-- The tags of the scalar types. -/
def tagOf (name : String) : List Char := ("tag:yaml.org,2002:" ++ name).toList

/-- What a scalar stands for under its tag. -/
def tagged (isPlain : Bool) (tag : Option (List Char)) (cs : List Char) : Except Misfit Found :=
  let wrong (expected : String) : Except Misfit Found :=
    .error (.wrongValue (.text (String.ofList cs)) expected)
  match tag with
  | none => .ok (if isPlain then resolved cs else .text (String.ofList cs))
  | some tag =>
    if tag = tagOf "bool" then
      match flag? cs with
      | some b => .ok (.flag b)
      | none => wrong "a boolean"
    else if tag = tagOf "int" then
      match integer? cs with
      | some found => .ok found
      | none => wrong "an integer"
    else if tag = tagOf "float" then
      match double? cs with
      | some x => .ok (.float x)
      | none => wrong "a float"
    else if tag = tagOf "null" then
      if isNull cs then .ok .empty else wrong "null"
    else if isPlain && tag.head? == some '!' then .ok (resolved cs)
    else .ok (.text (String.ofList cs))

end Yaml

end RestCall

import RestCall.Decimal.Shortest
import RestCall.Text.Numeral
/-!
# RestCall — how a decimal is laid out

The digits of a double are the shortest ones; where they stand is a choice
of the text they appear in. A layout says for which exponents a number is
written positionally, and whether a whole number keeps a decimal point.
-/

namespace RestCall

namespace Decimal

/-- A way of writing finite doubles: positionally when the exponent of the
first digit lies in `positional` (always, when that is `none`), otherwise
with an exponent; and with `.0` after a whole number or without. -/
structure Layout where
  positional : Option (Int × Int)
  keepsPoint : Bool
deriving Repr, DecidableEq

/-- The digits of a number, in decimal. -/
def digitsOf (n : Nat) : List Char := (toString n).toList

/-- Digits written positionally. -/
def positionally (digits : List Char) (exponent : Int) (keepsPoint : Bool) : List Char :=
  if 0 ≤ exponent then
    digits ++ List.replicate exponent.toNat '0' ++ (if keepsPoint then ['.', '0'] else [])
  else
    let places := (-exponent).toNat
    if places < digits.length then
      digits.take (digits.length - places) ++ '.' :: digits.drop (digits.length - places)
    else ['0', '.'] ++ List.replicate (places - digits.length) '0' ++ digits

/-- Digits written with an exponent, which always carries its sign. -/
def scientifically (digits : List Char) (lead : Int) : List Char :=
  let mantissa := match digits with
    | [] => []
    | [d] => [d]
    | d :: rest => d :: '.' :: rest
  let sign := if lead < 0 then '-' else '+'
  mantissa ++ 'e' :: sign :: digitsOf lead.natAbs

/-- A positive or zero decimal in a layout. -/
def Number.render (l : Layout) (n : Number) : List Char :=
  let digits := digitsOf n.digits
  let lead := n.exponent + digits.length - 1
  let fits := match l.positional with
    | none => true
    | some (lowest, highest) => lowest ≤ lead && lead ≤ highest
  if fits then positionally digits n.exponent l.keepsPoint
  else scientifically digits lead

/-- A double in a layout; the names of the values that are not finite are
the same in all of them. -/
def render (l : Layout) (x : Float) : String :=
  match Parts.of x with
  | .nan => "NaN"
  | .infinite negative => if negative then "-inf" else "inf"
  | .finite negative significand exponent narrowBelow =>
    let text := (shortest significand exponent narrowBelow).render l
    String.ofList (if negative then '-' :: text else text)

/-- **Wire form**: always positional, and a whole number has no point. -/
def wire : Layout := ⟨none, false⟩

/-- **Message form**: always positional, and a whole number keeps its point. -/
def pointed : Layout := ⟨none, true⟩

/-- **JSON form**: positional from five zeros after the point up to sixteen
digits before it, and a whole number keeps its point. -/
def json : Layout := ⟨some (-5, 15), true⟩

end Decimal

end RestCall

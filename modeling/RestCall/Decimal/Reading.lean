import RestCall.Text.Case
import RestCall.Text.Numeral
/-!
# RestCall — doubles read from a text

A decimal text is read as the double nearest to it. A sign, digits on
either side of a point and a power of ten are admitted, and the names of
infinity and of no number in any case of letters.
-/

namespace RestCall

namespace Decimal

/-- The double nearest to `digits · 10 ^ exponent`. An exponent that puts
the first digit far outside the range of doubles is not computed with. -/
def nearest (digits : Nat) (exponent : Int) : Float :=
  if digits = 0 then 0.0
  else
    let lead := exponent + (toString digits).length
    if 400 < lead then 1.0 / 0.0
    else if lead < -400 then 0.0
    else Float.ofScientific digits (exponent < 0) exponent.natAbs

/-- The digits at the front of a text and what follows them. -/
def spanDigits (cs : List Char) : List Char × List Char :=
  (cs.takeWhile Char.isDigit, cs.dropWhile Char.isDigit)

/-- The power of ten after the digits of a number: none, or a mark, an
optional sign and digits up to the end. -/
def exponent? : List Char → Option Int
  | [] => some 0
  | c :: rest =>
    if c = 'e' ∨ c = 'E' then
      match rest with
      | '-' :: digits => (Numeral.digits? 10 digits).map fun n => -(n : Int)
      | '+' :: digits => (Numeral.digits? 10 digits).map Int.ofNat
      | digits => (Numeral.digits? 10 digits).map Int.ofNat
    else none

/-- The magnitude a text without sign stands for: at least one digit is
needed, before the point or after it. -/
def magnitude? (cs : List Char) : Option Float :=
  let (whole, rest) := spanDigits cs
  let (fraction, tail) := match rest with
    | '.' :: after => spanDigits after
    | _ => ([], rest)
  if whole.isEmpty && fraction.isEmpty then none
  else do
    let exponent ← exponent? tail
    let digits ← Numeral.digits? 10 (whole ++ fraction)
    return nearest digits (exponent - fraction.length)

/-- The names of the doubles that are not finite. -/
def named? (cs : List Char) : Option Float :=
  match Text.foldName (String.ofList cs) with
  | "inf" => some (1.0 / 0.0)
  | "infinity" => some (1.0 / 0.0)
  | "nan" => some (0.0 / 0.0)
  | _ => none

/-- The double that a text without sign stands for. -/
def unsigned? (cs : List Char) : Option Float := (magnitude? cs).or (named? cs)

/-- The double that a text stands for. -/
def read? : List Char → Option Float
  | '-' :: rest => (unsigned? rest).map fun x => -x
  | '+' :: rest => unsigned? rest
  | cs => unsigned? cs

end Decimal

end RestCall

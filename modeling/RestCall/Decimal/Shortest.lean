import RestCall.Decimal.Binary
/-!
# RestCall — the shortest decimal that reads back

Every real number between the midpoints to a double's two neighbours is
read as that double. Among the decimals in this interval the shortest are
found by trying one digit, two digits and so on: on the grid of the
decimals with a given count of digits only the two points next to the
double itself have to be tried, for if any point of the grid lies in the
interval, one of these two does.
-/

namespace RestCall

namespace Decimal

/-- The decimal `digits · 10 ^ exponent`. -/
structure Number where
  digits : Nat
  exponent : Int
deriving Repr, DecidableEq

/-- The reals that are read as one double, over a common denominator:
those from `low` to `high`, the ends among them when `closed`. -/
structure Interval where
  low : Nat
  value : Nat
  high : Nat
  denominator : Nat
  closed : Bool
deriving Repr, DecidableEq

/-- The interval of the positive double `significand · 2 ^ exponent`. Its
ends round to it when its significand is even. -/
def Interval.of (significand : Nat) (exponent : Int) (narrowBelow : Bool) : Interval :=
  let scale := Nat.pow 2 exponent.toNat
  let below := if narrowBelow then 1 else 2
  { low := (4 * significand - below) * scale
    value := 4 * significand * scale
    high := (4 * significand + 2) * scale
    denominator := 4 * Nat.pow 2 (-exponent).toNat
    closed := significand % 2 == 0 }

/-- A fraction compared with a power of ten: the pair whose order is that
of `numerator / denominator` and `10 ^ e`. -/
def againstPower (numerator denominator : Nat) (e : Int) : Nat × Nat :=
  (numerator * Nat.pow 10 (-e).toNat, denominator * Nat.pow 10 e.toNat)

/-- The number of decimal digits of a natural number, at least one. -/
def width (n : Nat) : Nat := if n < 10 then 1 else width (n / 10) + 1
termination_by n

/-- The exponent of the first digit of a positive fraction: the `e` with
`10 ^ e ≤ numerator / denominator < 10 ^ (e + 1)`. The widths of the two
parts fix it up to one. -/
def leadingExponent (numerator denominator : Nat) : Int :=
  let guess : Int := (width numerator : Int) - width denominator
  let (n, d) := againstPower numerator denominator guess
  if d ≤ n then guess else guess - 1

/-- Whether the point `k · 10 ^ g` lies in an interval. -/
def Interval.contains (i : Interval) (k : Nat) (g : Int) : Bool :=
  let (low, d) := againstPower i.low i.denominator g
  let (high, _) := againstPower i.high i.denominator g
  if i.closed then low ≤ k * d && k * d ≤ high else low < k * d && k * d < high

/-- The point of the grid of spacing `10 ^ g` that lies in an interval and
is nearest to its double, if there is one. A tie goes to the even point. -/
def Interval.onGrid? (i : Interval) (g : Int) : Option Number :=
  let (n, d) := againstPower i.value i.denominator g
  let k := n / d
  let remainder := n % d
  let lower := i.contains k g && k != 0
  let upper := i.contains (k + 1) g
  if lower && upper then
    if 2 * remainder < d || (2 * remainder == d && k % 2 == 0) then some ⟨k, g⟩
    else some ⟨k + 1, g⟩
  else if lower then some ⟨k, g⟩
  else if upper then some ⟨k + 1, g⟩
  else none

/-- The first hit on the grids for `count` digits more, the leading digit
standing at exponent `lead` and `tried` digits having been tried. -/
def Interval.search (i : Interval) (lead : Int) : (count tried : Nat) → Option Number
  | 0, _ => none
  | count + 1, tried =>
    match i.onGrid? (lead - tried) with
    | some n => some n
    | none => i.search lead count (tried + 1)

/-- A number without the zeros at its end: a carry into a new leading digit
leaves them. -/
def Number.withoutZeros (n : Number) : Number :=
  if n.digits ≠ 0 ∧ n.digits % 10 = 0 then
    Number.withoutZeros ⟨n.digits / 10, n.exponent + 1⟩
  else n
termination_by n.digits
decreasing_by exact Nat.div_lt_self (by omega) (by omega)

/-- The shortest decimal that is read as the positive double
`significand · 2 ^ exponent`, and of several such the nearest. Seventeen
digits always suffice. -/
def shortest (significand : Nat) (exponent : Int) (narrowBelow : Bool) : Number :=
  if significand = 0 then ⟨0, 0⟩
  else
    let i := Interval.of significand exponent narrowBelow
    let lead := leadingExponent i.value i.denominator
    match i.search lead 17 0 with
    | some n => n.withoutZeros
    | none => ⟨0, 0⟩

end Decimal

end RestCall

/-!
# RestCall — doubles as exact numbers

A finite double is a whole number times a power of two. What a decimal
text of it must satisfy is stated on that pair, so this file takes a
double apart and does nothing else with it.
-/

namespace RestCall

namespace Decimal

/-- A double taken apart. The magnitude of a finite one is
`significand · 2 ^ exponent`; `narrowBelow` tells that the double below it
is only half as far away as the double above. -/
inductive Parts where
  | nan
  | infinite (negative : Bool)
  | finite (negative : Bool) (significand : Nat) (exponent : Int) (narrowBelow : Bool)
deriving Repr, DecidableEq

/-- The parts of the double with the given bits. -/
def Parts.ofBits (bits : UInt64) : Parts :=
  let negative := bits >>> 63 == 1
  let biased := ((bits >>> 52) &&& 0x7FF).toNat
  let fraction := (bits &&& 0xFFFFFFFFFFFFF).toNat
  if biased == 0x7FF then
    if fraction == 0 then .infinite negative else .nan
  else if biased == 0 then .finite negative fraction (-1074) false
  else .finite negative (4503599627370496 + fraction) ((biased : Int) - 1075) (fraction == 0 && biased > 1)

/-- The parts of a double. -/
def Parts.of (x : Float) : Parts := Parts.ofBits x.toBits

end Decimal

end RestCall

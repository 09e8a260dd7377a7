import RestCall.Text.Blank
/-!
# RestCall — numerals in a text

Natural numbers are written in decimal without leading zeros. They are
read under an upper bound, in any radix up to sixteen, with an optional
plus sign where the format allows one.
-/

namespace RestCall

namespace Numeral

/-- The value of a digit in a radix up to sixteen. -/
def digit? (radix : Nat) (c : Char) : Option Nat :=
  let value :=
    if '0' ≤ c && c ≤ '9' then some (c.toNat - '0'.toNat)
    else if 'a' ≤ c && c ≤ 'f' then some (c.toNat - 'a'.toNat + 10)
    else if 'A' ≤ c && c ≤ 'F' then some (c.toNat - 'A'.toNat + 10)
    else none
  value.bind fun v => if v < radix then some v else none

/-- The value of a digit sequence continuing a value already read. -/
def digitsFrom (radix : Nat) : Nat → List Char → Option Nat
  | acc, [] => some acc
  | acc, c :: rest => (digit? radix c).bind fun d => digitsFrom radix (acc * radix + d) rest

/-- The value of a non-empty digit sequence. -/
def digits? (radix : Nat) : List Char → Option Nat
  | [] => none
  | cs => digitsFrom radix 0 cs

/-- A natural number up to a bound, after an optional plus sign. -/
def natural? (radix bound : Nat) (cs : List Char) : Option Nat :=
  let unsigned := match cs with
    | '+' :: rest => rest
    | _ => cs
  (digits? radix unsigned).bind fun n => if n ≤ bound then some n else none

/-- An integer between two bounds, after an optional sign. -/
def integer? (radix : Nat) (low high : Int) (cs : List Char) : Option Int :=
  let value := match cs with
    | '+' :: rest => (digits? radix rest).map Int.ofNat
    | '-' :: rest => (digits? radix rest).map fun n => -(n : Int)
    | _ => (digits? radix cs).map Int.ofNat
  value.bind fun n => if low ≤ n ∧ n ≤ high then some n else none

/-- The largest number of 64 bits. -/
def max64 : Nat := 18446744073709551615

/-- The largest number of 32 bits. -/
def max32 : Nat := 4294967295

/-- The digit of a value below sixteen, in lower case. -/
def hexDigit (n : Nat) : Char :=
  if n < 10 then Char.ofNat ('0'.toNat + n) else Char.ofNat ('a'.toNat + (n - 10))

/-- The digit of a value below sixteen, in upper case. -/
def hexDigitUpper (n : Nat) : Char :=
  if n < 10 then Char.ofNat ('0'.toNat + n) else Char.ofNat ('A'.toNat + (n - 10))

/-- A number in hexadecimal, lower case, without leading zeros. -/
def hex (n : Nat) : List Char :=
  if n < 16 then [hexDigit n] else hex (n / 16) ++ [hexDigit (n % 16)]
termination_by n

/-- A number in hexadecimal with exactly the given count of digits, the
lowest ones. -/
def hexPadded : (width n : Nat) → List Char
  | 0, _ => []
  | width + 1, n => hexPadded width (n / 16) ++ [hexDigit (n % 16)]

/-- A number in decimal with at least the given count of digits. -/
def padded (width n : Nat) : String :=
  let digits := (toString n).toList
  String.ofList (List.replicate (width - digits.length) '0' ++ digits)

end Numeral

end RestCall

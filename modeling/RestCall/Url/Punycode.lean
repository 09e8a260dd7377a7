/-!
# RestCall — the code for labels beyond ASCII

The characters of a label beyond ASCII are written after the others, in
the order of their numbers. Each is given by its distance from the one
before, counted in places where a character could be put, and a distance
is a row of digits whose weights adapt to the distances so far. The
decoder reads one digit at a time.
-/

namespace RestCall

namespace Punycode

/-! ## Digits and weights -/

/-- The digit of a value below 36. -/
def digit (n : Nat) : Char :=
  if n < 26 then Char.ofNat ('a'.toNat + n) else Char.ofNat ('0'.toNat + (n - 26))

/-- The value of a digit. -/
def value? (c : Char) : Option Nat :=
  if 'a' ≤ c && c ≤ 'z' then some (c.toNat - 'a'.toNat)
  else if '0' ≤ c && c ≤ '9' then some (c.toNat - '0'.toNat + 26)
  else none

/-- The digits below this value end a distance, at place `k` and under a
bias. -/
def threshold (bias k : Nat) : Nat :=
  if k ≤ bias then 1 else if bias + 26 ≤ k then 26 else k - bias

/-- A threshold lies between 1 and 26. -/
theorem threshold_bounds (bias k : Nat) : 1 ≤ threshold bias k ∧ threshold bias k ≤ 26 := by
  unfold threshold
  split
  · omega
  · split <;> omega

/-- A distance brought below the range in which the bias is linear. -/
def adaptFrom (k delta : Nat) : Nat :=
  if 455 < delta then adaptFrom (k + 36) (delta / 35) else k + 36 * delta / (delta + 38)
termination_by delta
decreasing_by exact Nat.div_lt_self (by omega) (by omega)

/-- The bias after a distance to the last of so many characters. -/
def adapt (delta characters : Nat) (first : Bool) : Nat :=
  let scaled := if first then delta / 700 else delta / 2
  adaptFrom 0 (scaled + scaled / characters)

/-- The first bias. -/
def firstBias : Nat := 72

/-- The number of the first character beyond ASCII. -/
def firstNumber : Nat := 0x80

/-! ## Writing -/

/-- A distance as digits, from place `k` on. -/
def distance (bias k q : Nat) : List Char :=
  if q < threshold bias k then [digit q]
  else
    digit (threshold bias k + (q - threshold bias k) % (36 - threshold bias k)) ::
      distance bias (k + 36) ((q - threshold bias k) / (36 - threshold bias k))
termination_by q
decreasing_by
  have h := threshold_bounds bias k
  have := Nat.div_le_self (q - threshold bias k) (36 - threshold bias k)
  omega

/-- What an encoder carries along: the distance so far, the bias, how many
characters have been written, and the digits. -/
structure Encoder where
  delta : Nat
  bias : Nat
  written : Nat
  digits : List Char

/-- One character seen by an encoder that writes those of number `n`. -/
def Encoder.see (basic n : Nat) (e : Encoder) (c : Char) : Encoder :=
  if c.toNat < n then { e with delta := e.delta + 1 }
  else if c.toNat = n then
    { delta := 0
      bias := adapt e.delta (e.written + 1) (e.written = basic)
      written := e.written + 1
      digits := e.digits ++ distance e.bias 36 e.delta }
  else e

/-- The numbers of a label's characters beyond ASCII, each once, in rising
order. -/
def numbers (label : List Char) : List Nat :=
  ((label.map Char.toNat).filter (firstNumber ≤ ·)).eraseDups.mergeSort

/-- The digits for the characters of the given numbers, when all numbers
below `n` have been dealt with. -/
def Encoder.run (basic : Nat) (label : List Char) : List Nat → Nat → Encoder → List Char
  | [], _, e => e.digits
  | m :: rest, n, e =>
    let e := { e with delta := e.delta + (m - n) * (e.written + 1) }
    let e := label.foldl (Encoder.see basic m) e
    Encoder.run basic label rest (m + 1) { e with delta := e.delta + 1 }

/-- The code of a label. -/
def encode (label : List Char) : List Char :=
  let basic := label.filter fun c => c.toNat < firstNumber
  basic ++ (if basic.isEmpty then [] else ['-']) ++
    Encoder.run basic.length label (numbers label) firstNumber ⟨0, firstBias, basic.length, []⟩

/-! ## Reading -/

/-- A decoder: the label so far, the number and the place that the last
character was put at, the bias, and the distance that is being read with
the weight and the place of its next digit. -/
structure Decoder where
  label : List Char
  number : Nat
  place : Nat
  bias : Nat
  distance : Nat
  weight : Nat
  k : Nat

/-- A decoder that has read the ASCII part of a label. -/
def Decoder.start (basic : List Char) : Decoder := ⟨basic, firstNumber, 0, firstBias, 0, 1, 36⟩

/-- The character at a distance put into the label. -/
def Decoder.put? (d : Decoder) (distance : Nat) : Option Decoder :=
  let count := d.label.length + 1
  let reached := d.place + distance
  let number := d.number + reached / count
  if number.isValidChar then
    some
      { label := d.label.insertIdx (reached % count) (Char.ofNat number)
        number := number
        place := reached % count + 1
        bias := adapt distance count (d.place = 0)
        distance := 0
        weight := 1
        k := 36 }
  else none

/-- One digit read. -/
def Decoder.read? (d : Decoder) (c : Char) : Option Decoder :=
  (value? c).bind fun v =>
    let distance := d.distance + v * d.weight
    let t := threshold d.bias d.k
    if v < t then d.put? distance
    else some { d with distance, weight := d.weight * (36 - t), k := d.k + 36 }

/-- The label of a code. -/
def decode? (code : List Char) : Option (List Char) :=
  let digits := (code.reverse.takeWhile (· != '-')).reverse
  let basic := (code.take (code.length - digits.length)).dropLast
  if code.head? = some '-' && basic.isEmpty then none
  else
    (digits.foldlM Decoder.read? (Decoder.start basic)).bind fun d =>
      if d.k = 36 then some d.label else none

end Punycode

end RestCall

import RestCall.Text.CanonicalTable
/-!
# RestCall — canonical composition

A letter with a mark can often be written in two ways, as one character or
as a letter followed by the mark, and several marks in any order. In
canonical form every character is taken apart first, marks behind a
character are put in order, and then each is composed with the character
before it where that is possible. Syllables of the Korean script follow a
formula instead of the table.
-/

namespace RestCall

namespace Text

/-! ## Syllables -/

/-- How many vowels a syllable may have. -/
def vowelCount : Nat := 21

/-- How many final consonants a syllable may have, none included. -/
def finalCount : Nat := 28

/-- The parts of the syllable of a number: a final consonant is taken off
first. -/
def syllableParts (n : Nat) : Nat × Nat :=
  let s := n - 0xAC00
  if s % finalCount ≠ 0 then (n - s % finalCount, 0x11A7 + s % finalCount)
  else (0x1100 + s / finalCount / vowelCount, 0x1161 + s / finalCount % vowelCount)

/-- The syllable of a consonant and a vowel, or of a syllable without a
final consonant and such a consonant. -/
def syllable? (a b : Nat) : Option Nat :=
  if 0x1100 ≤ a ∧ a < 0x1113 ∧ 0x1161 ≤ b ∧ b < 0x1161 + vowelCount then
    some (0xAC00 + ((a - 0x1100) * vowelCount + (b - 0x1161)) * finalCount)
  else if 0xAC00 ≤ a ∧ a < 0xD7A4 ∧ (a - 0xAC00) % finalCount = 0 ∧
      0x11A7 < b ∧ b < 0x11A7 + finalCount then
    some (a + (b - 0x11A7))
  else none

/-! ## Characters -/

/-- The two characters that a composed one stands for. -/
def parts? (n : Nat) : Option (Nat × Nat) :=
  if n < 0x80 then none
  else if 0xAC00 ≤ n ∧ n < 0xD7A4 then some (syllableParts n)
  else match (runOf? composedRuns n).map Run.values with
    | some [a, b] => some (a, b)
    | _ => none

/-- The character that two characters compose. -/
def composed? (a b : Nat) : Option Nat :=
  (syllable? a b).or ((composedRuns.find? (·.values == [a, b])).map Run.first)

/-- The place of a mark among the marks behind a character; anything else
has the place zero. -/
def order (n : Nat) : Nat :=
  if n < 0x80 then 0 else ((runOf? orderRuns n).bind (·.values.head?)).getD 0

/-- A character taken apart, in so many rounds at most. -/
def apart : (rounds : Nat) → Nat → List Nat
  | 0, n => [n]
  | rounds + 1, n =>
    match parts? n with
    | some (a, b) => apart rounds a ++ [b]
    | none => [n]

/-! ## Texts -/

/-- Puts a character in front of marks in order, a mark behind those that
come before it. -/
def putInOrder (n : Nat) : List Nat → List Nat
  | [] => [n]
  | m :: rest =>
    if 0 < order m && order m < order n then m :: putInOrder n rest else n :: m :: rest

/-- Whether nothing stands between a character and the marks passed over
before it that keeps it from being composed. -/
def isFree (passed : List Nat) (n : Nat) : Bool :=
  match passed with
  | [] => true
  | m :: _ => order m < order n

/-- Composes a character with what follows it. The marks passed over come
last one first. -/
def composeWith (starter : Nat) (passed : List Nat) : List Nat → List Nat
  | [] => starter :: passed.reverse
  | n :: rest =>
    match if isFree passed n then composed? starter n else none with
    | some whole => composeWith whole passed rest
    | none =>
      if order n = 0 then starter :: passed.reverse ++ composeWith n [] rest
      else composeWith starter (n :: passed) rest

/-- Composes characters taken apart and in order. -/
def compose : List Nat → List Nat
  | [] => []
  | n :: rest => if order n = 0 then composeWith n [] rest else n :: compose rest

/-- A text in canonical form. -/
def canonical (cs : List Char) : List Char :=
  if cs.all fun c => c.toNat < 0x80 then cs
  else
    let parts := cs.flatMap fun c => apart 4 c.toNat
    (compose (parts.foldr putInOrder [])).map Char.ofNat

end Text

end RestCall

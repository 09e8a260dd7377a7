/-!
# RestCall — UTF-8

Bytes are decoded one at a time against what the character begun so far
still owes. A byte that cannot continue it ends an ill-formed stretch,
which is reported once, and is then read as the beginning of the next
character. Decoding is therefore total: the strict reading refuses a
text with an ill-formed stretch, the lenient one puts U+FFFD in place of
each.
-/

namespace RestCall

/-- A sequence of bytes: a payload, a response body, a key. -/
abbrev Bytes := List UInt8

namespace Utf8

/-- A character of which some bytes have been read: how many are owed,
the bounds of the next one, and the bits read. -/
structure Pending where
  owed : Nat
  low : UInt8
  high : UInt8
  bits : Nat
deriving Repr, DecidableEq

/-- What a first byte begins. -/
inductive Lead where
  | whole (c : Char)
  | more (p : Pending)
  | refused
deriving Repr, DecidableEq

/-- A byte read as the first of a character. The bounds on the second
byte exclude overlong forms, surrogates and numbers above U+10FFFF. -/
def lead (b : UInt8) : Lead :=
  if b < 0x80 then .whole (Char.ofNat b.toNat)
  else if b < 0xC2 then .refused
  else if b < 0xE0 then .more ⟨1, 0x80, 0xBF, b.toNat - 0xC0⟩
  else if b == 0xE0 then .more ⟨2, 0xA0, 0xBF, 0⟩
  else if b == 0xED then .more ⟨2, 0x80, 0x9F, 0xD⟩
  else if b < 0xF0 then .more ⟨2, 0x80, 0xBF, b.toNat - 0xE0⟩
  else if b == 0xF0 then .more ⟨3, 0x90, 0xBF, 0⟩
  else if b < 0xF4 then .more ⟨3, 0x80, 0xBF, b.toNat - 0xF0⟩
  else if b == 0xF4 then .more ⟨3, 0x80, 0x8F, 4⟩
  else .refused

/-- The characters of a byte sequence, `none` for each ill-formed
stretch, after the bytes of a pending character. -/
def decodeFrom : Option Pending → Bytes → List (Option Char)
  | none, [] => []
  | some _, [] => [none]
  | none, b :: rest =>
    match lead b with
    | .whole c => some c :: decodeFrom none rest
    | .more p => decodeFrom (some p) rest
    | .refused => none :: decodeFrom none rest
  | some p, b :: rest =>
    if p.low ≤ b && b ≤ p.high then
      let bits := p.bits * 64 + (b.toNat - 0x80)
      if p.owed ≤ 1 then some (Char.ofNat bits) :: decodeFrom none rest
      else decodeFrom (some ⟨p.owed - 1, 0x80, 0xBF, bits⟩) rest
    else
      none :: match lead b with
        | .whole c => some c :: decodeFrom none rest
        | .more q => decodeFrom (some q) rest
        | .refused => none :: decodeFrom none rest

/-- The characters of a byte sequence, `none` for each ill-formed stretch. -/
def decode (bytes : Bytes) : List (Option Char) := decodeFrom none bytes

/-- The text of a byte sequence, U+FFFD standing for each ill-formed
stretch. -/
def lenient (bytes : Bytes) : List Char :=
  (decode bytes).map fun c => c.getD (Char.ofNat 0xFFFD)

/-- The text of a well-formed byte sequence. -/
def strict? (bytes : Bytes) : Option (List Char) := (decode bytes).mapM id

/-- The bytes of a text. -/
def encode (cs : List Char) : Bytes := cs.flatMap String.utf8EncodeChar

/-- The bytes of a string. -/
def ofString (s : String) : Bytes := encode s.toList

/-- How many bytes stand before the first ill-formed stretch. -/
def validLength (bytes : Bytes) : Nat :=
  ((decode bytes).takeWhile Option.isSome).foldl
    (fun n c => n + (c.map Char.utf8Size).getD 0) 0

end Utf8

end RestCall

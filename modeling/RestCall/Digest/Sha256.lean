import RestCall.Text.Utf8
/-!
# RestCall — SHA-256

The message is padded to blocks of sixteen words; each block is expanded to
sixty-four words, which stir the eight words of the state in turn.
-/

namespace RestCall

namespace Sha256

/-- The round constants. -/
def constants : List UInt32 :=
  [0x428a2f98, 0x71374491, 0xb5c0fbcf, 0xe9b5dba5, 0x3956c25b, 0x59f111f1, 0x923f82a4, 0xab1c5ed5,
   0xd807aa98, 0x12835b01, 0x243185be, 0x550c7dc3, 0x72be5d74, 0x80deb1fe, 0x9bdc06a7, 0xc19bf174,
   0xe49b69c1, 0xefbe4786, 0x0fc19dc6, 0x240ca1cc, 0x2de92c6f, 0x4a7484aa, 0x5cb0a9dc, 0x76f988da,
   0x983e5152, 0xa831c66d, 0xb00327c8, 0xbf597fc7, 0xc6e00bf3, 0xd5a79147, 0x06ca6351, 0x14292967,
   0x27b70a85, 0x2e1b2138, 0x4d2c6dfc, 0x53380d13, 0x650a7354, 0x766a0abb, 0x81c2c92e, 0x92722c85,
   0xa2bfe8a1, 0xa81a664b, 0xc24b8b70, 0xc76c51a3, 0xd192e819, 0xd6990624, 0xf40e3585, 0x106aa070,
   0x19a4c116, 0x1e376c08, 0x2748774c, 0x34b0bcb5, 0x391c0cb3, 0x4ed8aa4a, 0x5b9cca4f, 0x682e6ff3,
   0x748f82ee, 0x78a5636f, 0x84c87814, 0x8cc70208, 0x90befffa, 0xa4506ceb, 0xbef9a3f7, 0xc67178f2]

/-- The eight words that are stirred. -/
structure State where
  a : UInt32
  b : UInt32
  c : UInt32
  d : UInt32
  e : UInt32
  f : UInt32
  g : UInt32
  h : UInt32
deriving Repr, DecidableEq

/-- The state before the first block. -/
def State.start : State :=
  ⟨0x6a09e667, 0xbb67ae85, 0x3c6ef372, 0xa54ff53a, 0x510e527f, 0x9b05688c, 0x1f83d9ab, 0x5be0cd19⟩

/-- A word rotated to the right. -/
def rotate (x : UInt32) (n : UInt32) : UInt32 := (x >>> n) ||| (x <<< (32 - n))

/-- One round, with its constant and its word. -/
def State.round (s : State) (k w : UInt32) : State :=
  let high := rotate s.e 6 ^^^ rotate s.e 11 ^^^ rotate s.e 25
  let choice := (s.e &&& s.f) ^^^ ((~~~ s.e) &&& s.g)
  let t := s.h + high + choice + k + w
  let low := rotate s.a 2 ^^^ rotate s.a 13 ^^^ rotate s.a 22
  let majority := (s.a &&& s.b) ^^^ (s.a &&& s.c) ^^^ (s.b &&& s.c)
  ⟨t + (low + majority), s.a, s.b, s.c, s.d + t, s.e, s.f, s.g⟩

/-- Two states added word by word. -/
def State.add (s t : State) : State :=
  ⟨s.a + t.a, s.b + t.b, s.c + t.c, s.d + t.d, s.e + t.e, s.f + t.f, s.g + t.g, s.h + t.h⟩

/-- The word that comes after at least sixteen others, latest first. -/
def nextWord : List UInt32 → UInt32
  | [_, w1, _, _, _, _, w6, _, _, _, _, _, _, _, w14, w15] =>
    let small0 := rotate w14 7 ^^^ rotate w14 18 ^^^ (w14 >>> 3)
    let small1 := rotate w1 17 ^^^ rotate w1 19 ^^^ (w1 >>> 10)
    w15 + small0 + w6 + small1
  | _ => 0

/-- The words of a block from the last sixteen on, latest first: the given
count of further ones. -/
def extend : Nat → List UInt32 → List UInt32
  | 0, words => words
  | n + 1, words => extend n (nextWord (words.take 16) :: words)

/-- A block of sixteen words stirred into a state. -/
def State.compress (s : State) (block : List UInt32) : State :=
  let words := (extend 48 block.reverse).reverse
  s.add ((constants.zip words).foldl (fun t (k, w) => t.round k w) s)

/-- The words that bytes make up, first byte highest. -/
def words : Bytes → List UInt32
  | a :: b :: c :: d :: rest =>
    ((a.toUInt32 <<< 24) ||| (b.toUInt32 <<< 16) ||| (c.toUInt32 <<< 8) ||| d.toUInt32) ::
      words rest
  | _ => []

/-- The bytes of a number, highest first, in the given count. -/
def bigEndian : (count n : Nat) → Bytes
  | 0, _ => []
  | count + 1, n => bigEndian count (n / 256) ++ [UInt8.ofNat n]

/-- A message with its padding: a one bit, zeros, and the length in bits. -/
def pad (message : Bytes) : Bytes :=
  let zeros := (119 - message.length % 64) % 64
  message ++ 0x80 :: List.replicate zeros 0 ++ bigEndian 8 (8 * message.length)

/-- Whole blocks of words stirred into a state one after another; the count
bounds the blocks. -/
def State.absorb : (count : Nat) → State → List UInt32 → State
  | 0, s, _ => s
  | _, s, [] => s
  | count + 1, s, ws => State.absorb count (s.compress (ws.take 16)) (ws.drop 16)

/-- The digest of a message: thirty-two bytes. -/
def hash (message : Bytes) : Bytes :=
  let ws := words (pad message)
  let s := State.start.absorb ws.length ws
  [s.a, s.b, s.c, s.d, s.e, s.f, s.g, s.h].flatMap fun w => bigEndian 4 w.toNat

end Sha256

end RestCall

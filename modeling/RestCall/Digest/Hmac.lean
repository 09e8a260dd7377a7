import RestCall.Digest.Sha256
/-!
# RestCall — keyed digests

A message is authenticated by hashing it twice, each time after the key in
a different disguise. Keys of any length serve: one longer than a block is
hashed first.
-/

namespace RestCall

namespace Hmac

/-- The block size of the digest, in bytes. -/
def blockSize : Nat := 64

/-- A key as one block. -/
def block (key : Bytes) : Bytes :=
  let short := if key.length ≤ blockSize then key else Sha256.hash key
  short ++ List.replicate (blockSize - short.length) 0

/-- The keyed digest of a message. -/
def sha256 (key message : Bytes) : Bytes :=
  let k := block key
  let inner := Sha256.hash (k.map (· ^^^ 0x36) ++ message)
  Sha256.hash (k.map (· ^^^ 0x5C) ++ inner)

end Hmac

end RestCall

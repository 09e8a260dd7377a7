import RestCall.Text.Numeral
import RestCall.Text.Utf8
/-!
# RestCall — percent-encoding

Letters, digits and four marks stand for themselves; every other character
is written as the escapes of its UTF-8 bytes. An operation may name
characters that its provider wants unescaped. Their escapes are put back
one character after another, in the order named, over the whole encoded
text.
-/

namespace RestCall

namespace Percent

/-- A character that stands for itself. -/
def isUnreserved (c : Char) : Bool :=
  ('A' ≤ c && c ≤ 'Z') || ('a' ≤ c && c ≤ 'z') || ('0' ≤ c && c ≤ '9') ||
    c == '-' || c == '_' || c == '.' || c == '~'

/-- The escape of a byte. -/
def escape (b : UInt8) : List Char :=
  ['%', Numeral.hexDigitUpper (b.toNat / 16), Numeral.hexDigitUpper (b.toNat % 16)]

/-- A character in encoded form. -/
def encodeChar (c : Char) : List Char :=
  if isUnreserved c then [c] else (String.utf8EncodeChar c).flatMap escape

/-- A text in encoded form. -/
def encode (cs : List Char) : List Char := cs.flatMap encodeChar

/-- Replaces every occurrence of a pattern, from left to right and without
overlap, after passing over the given count of characters. -/
def replaceFrom (pattern literal : List Char) : Nat → List Char → List Char
  | _, [] => []
  | n + 1, _ :: rest => replaceFrom pattern literal n rest
  | 0, c :: rest =>
    if pattern.isPrefixOf (c :: rest) then
      literal ++ replaceFrom pattern literal (pattern.length - 1) rest
    else c :: replaceFrom pattern literal 0 rest

/-- Puts one character back in place of its escapes. -/
def restore (cs : List Char) (c : Char) : List Char :=
  if isUnreserved c then cs else replaceFrom (encodeChar c) [c] 0 cs

/-- A text in encoded form with the characters of `skip` put back. A text
that needs no escape is left as it is. -/
def encodeSkipping (skip cs : List Char) : List Char :=
  let encoded := encode cs
  if encoded = cs then cs else skip.foldl restore encoded

/-- A name or value of a request in encoded form. -/
def encodeComponent (skip : List Char) (s : String) : String :=
  String.ofList (encodeSkipping skip s.toList)

/-- The bytes that an encoded text stands for: an escape stands for its
byte, anything else for itself. -/
def decode : List Char → Bytes
  | [] => []
  | '%' :: a :: b :: rest =>
    match Numeral.digit? 16 a, Numeral.digit? 16 b with
    | some high, some low => UInt8.ofNat (high * 16 + low) :: decode rest
    | _, _ => Utf8.encode ['%'] ++ decode (a :: b :: rest)
  | c :: rest => String.utf8EncodeChar c ++ decode rest

end Percent

end RestCall

import RestCall.Text.Numeral
import RestCall.Text.Utf8
/-!
# RestCall — bytes in hexadecimal

Two digits a byte, in lower case.
-/

namespace RestCall

namespace Hex

/-- The text of a byte sequence. -/
def encode (bytes : Bytes) : String :=
  String.ofList (bytes.flatMap fun b => Numeral.hexPadded 2 b.toNat)

/-- The bytes of a text of digit pairs. -/
def decode? : List Char → Option Bytes
  | [] => some []
  | [_] => none
  | a :: b :: rest => do
    let high ← Numeral.digit? 16 a
    let low ← Numeral.digit? 16 b
    return UInt8.ofNat (high * 16 + low) :: (← decode? rest)

end Hex

end RestCall

import RestCall.Text.Case
import RestCall.Url.Basic
import RestCall.Url.Label
import RestCall.Url.PlainTable
import RestCall.Url.Punycode
/-!
# RestCall — domain names

A domain name is written in ASCII. Its characters are first brought to
their plain forms: letters are lowered, wide and joined forms replaced,
marks that only guide the layout left out. A label with characters beyond
ASCII is then written in code, and a label that comes in code has to be
the code of such a label.
-/

namespace RestCall

namespace Url

/-! ## Plain forms -/

/-- The plain form of a character, or `none` when no name holds it. -/
def plain? (c : Char) : Option (List Char) :=
  let n := c.toNat
  if n < 0x80 then some [Text.lowerAscii c]
  else if Text.isIn refusedRuns n then none
  else if Text.isIn ignoredRuns n then some []
  else match Text.runOf? plainRuns n with
    | none => some [c]
    | some ⟨first, _, _, [value]⟩ => some [Char.ofNat (value + (n - first))]
    | some run => some (run.values.map Char.ofNat)

/-- Whether a label is in plain form. -/
def isPlain (label : List Char) : Bool :=
  label.all (fun c => plain? c == some [c]) && Text.canonical label == label

/-! ## Names -/

/-- An ASCII character that no domain name holds. -/
def isForbidden (c : Char) : Bool :=
  c.toNat ≤ 0x20 || c.toNat = 0x7F ||
    ['%', '#', '/', ':', '<', '>', '?', '@', '[', '\\', ']', '^', '|'].contains c

/-- Whether a label consists of ASCII characters. -/
def isAsciiLabel (label : List Char) : Bool := label.all fun c => c.toNat < 0x80

/-- What a label in code begins with. -/
def codeMark : List Char := ['x', 'n', '-', '-']

/-- How long a label that is to be written in code may be. -/
def labelLimit : Nat := 1000

/-- A label of a name: what it is meant to show, and how it is written. -/
structure Label where
  shown : List Char
  written : List Char

/-- A label in plain form. One that comes in code stands for a label beyond
ASCII in plain form, and one that begins like code for nothing else. -/
def Label.ofPlain? (label : List Char) : Option Label :=
  match Text.after? codeMark label with
  | some code =>
    if 2 * labelLimit < code.length then none
    else (Punycode.decode? code).bind fun shown =>
      if isAsciiLabel shown || !isPlain shown then none else some ⟨shown, label⟩
  | none =>
    if isAsciiLabel label then some ⟨label, label⟩
    else if labelLimit < label.length then none
    else some ⟨label, codeMark ++ Punycode.encode label⟩

/-- Whether labels make up a name. -/
def isName (labels : List (List Char)) : Bool :=
  labels.all isLabel && (!labels.any isRightward || labels.all keepsDirection)

/-- A domain name in ASCII and in plain form, or `none` when a character or
a label of it is not allowed. -/
def asciiDomain? (cs : List Char) : Option (List Char) := do
  let forms ← cs.mapM plain?
  let labels ← (Text.splitOn '.' (Text.canonical forms.flatten)).mapM Label.ofPlain?
  let name := ((labels.map Label.written).intersperse ['.']).flatten
  if name.any isForbidden || !isName (labels.map Label.shown) then none else some name

end Url

end RestCall

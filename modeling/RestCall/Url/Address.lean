import RestCall.Text.Blank
import RestCall.Text.Numeral
import RestCall.Url.Basic
/-!
# RestCall — numeric hosts

A host of a web URL whose last label is a number is an address of four
bytes, written with one to four numbers in three radices; a host in
brackets is an address of eight words, of which one run of zeros may be
left out. Both have one normal form.
-/

namespace RestCall

namespace Url

/-! ## Four bytes -/

/-- One part of an address: its radix shows at its front. The inner `none`
is a number of more than 32 bits. -/
def ipv4Number? (cs : List Char) : Option (Option Nat) :=
  let (radix, digits) := match cs with
    | '0' :: 'x' :: rest => (16, rest)
    | '0' :: 'X' :: rest => (16, rest)
    | '0' :: d :: rest => (8, d :: rest)
    | _ => (10, cs)
  if cs.isEmpty then none
  else if digits.isEmpty then some (some 0)
  else (Numeral.digits? radix digits).map fun n => if n ≤ Numeral.max32 then some n else none

/-- The labels of a host, an empty one at the end left out. -/
def labels (cs : List Char) : List (List Char) :=
  let parts := Text.splitOn '.' cs
  match parts.reverse with
  | [] :: rest => if rest.isEmpty then parts else rest.reverse
  | _ => parts

/-- Whether the last label of a host is a number. -/
def endsInNumber (cs : List Char) : Bool :=
  match (labels cs).getLast? with
  | none => false
  | some last =>
    !last.isEmpty && (last.all Char.isDigit || (ipv4Number? last).isSome)

/-- A number as four bytes. -/
def ipv4Text (n : Nat) : String :=
  s!"{n / 16777216 % 256}.{n / 65536 % 256}.{n / 256 % 256}.{n % 256}"

/-- The number of an address whose leading parts are bytes and whose last
part fills the remaining ones. -/
def ipv4Value? (parts : List Nat) : Option Nat :=
  match parts.reverse with
  | [] => none
  | last :: leading =>
    if 3 < leading.length then none
    else if leading.any (255 < ·) then none
    else if Nat.pow 256 (4 - leading.length) ≤ last then none
    else
      let high := leading.reverse.foldl (fun n b => n * 256 + b) 0
      some (high * Nat.pow 256 (4 - leading.length) + last)

/-- The normal form of an address of four bytes. -/
def ipv4? (cs : List Char) : Option String := do
  let parts ← (labels cs).mapM fun part => (ipv4Number? part).join
  return ipv4Text (← ipv4Value? parts)

/-! ## Eight words -/

/-- A decimal byte without leading zeros. -/
def byte? (cs : List Char) : Option Nat :=
  match cs with
  | ['0'] => some 0
  | '0' :: _ => none
  | _ => if cs.all Char.isDigit then (Numeral.digits? 10 cs).filter (· ≤ 255) else none

/-- Two words written as four decimal bytes. -/
def wordsOfBytes? (cs : List Char) : Option (List Nat) :=
  match (Text.splitOn '.' cs).mapM byte? with
  | some [a, b, c, d] => some [a * 256 + b, c * 256 + d]
  | _ => none

/-- Words separated by colons, of which the last may be written as bytes. -/
def words? : List (List Char) → Option (List Nat)
  | [] => some []
  | [part] =>
    if part.contains '.' then wordsOfBytes? part
    else if part.length ≤ 4 then (Numeral.digits? 16 part).map ([·]) else none
  | part :: rest => do
    let n ← if part.length ≤ 4 then Numeral.digits? 16 part else none
    return n :: (← words? rest)

/-- The words of a group that may be empty. -/
def group? (cs : List Char) : Option (List Nat) :=
  if cs.isEmpty then some [] else words? (Text.splitOn ':' cs)

/-- The text before and after the first pair of colons. -/
def splitPair : List Char → Option (List Char × List Char)
  | [] => none
  | [_] => none
  | a :: b :: rest =>
    if a = ':' ∧ b = ':' then some ([], rest)
    else (splitPair (b :: rest)).map fun (before, after) => (a :: before, after)

/-- The eight words of an address. A pair of colons stands for at least one
zero word; only the part after it may end in bytes. -/
def ipv6? (cs : List Char) : Option (List Nat) :=
  match splitPair cs with
  | none => (words? (Text.splitOn ':' cs)).filter (·.length == 8)
  | some (before, after) => do
    if before.contains '.' then none
    let high ← group? before
    let low ← group? after
    if 7 < high.length + low.length then none
    return high ++ List.replicate (8 - high.length - low.length) 0 ++ low

/-- The longest run of zeros in a list of words, the first of several: where
it starts and how long it is. -/
def zeroRun (words : List Nat) : Nat × Nat :=
  let runFrom (i : Nat) := ((words.drop i).takeWhile (· == 0)).length
  (List.range words.length).foldl
    (fun best i => if best.2 < runFrom i then (i, runFrom i) else best) (0, 0)

/-- Words in hexadecimal with colons between them. -/
def wordsText (words : List Nat) : List Char :=
  (words.map Numeral.hex).intersperse [':'] |>.flatten

/-- The normal form of an address of eight words: the longest run of two or
more zero words is left out. -/
def ipv6Text (words : List Nat) : List Char :=
  let (start, length) := zeroRun words
  if length < 2 then wordsText words
  else wordsText (words.take start) ++ [':', ':'] ++ wordsText (words.drop (start + length))

end Url

end RestCall

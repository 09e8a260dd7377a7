import RestCall.Text.CaseTable
/-!
# RestCall — letter case

Lower case follows the Unicode mappings, with the one rule that depends
on the surroundings: a capital sigma at the end of a word becomes the
final form. Names that the protocols compare (header names, hosts) use
the ASCII mappings, which leave every other character alone.
-/

namespace RestCall

namespace Text

/-- Whether a number lies in one of the ranges. -/
def inRanges (ranges : List (Nat × Nat)) (n : Nat) : Bool :=
  ranges.any fun (first, last) => first ≤ n && n ≤ last

/-- A character in ASCII lower case. -/
def lowerAscii (c : Char) : Char :=
  if 'A' ≤ c && c ≤ 'Z' then Char.ofNat (c.toNat + 32) else c

/-- A character in ASCII upper case. -/
def upperAscii (c : Char) : Char :=
  if 'a' ≤ c && c ≤ 'z' then Char.ofNat (c.toNat - 32) else c

/-- A name as it is compared when the case of ASCII letters is no matter. -/
def foldName (s : String) : String := String.ofList (s.toList.map lowerAscii)

/-- Two names that differ at most in the case of ASCII letters. -/
def sameName (a b : String) : Bool := foldName a == foldName b

/-- The lower-case form of one character. The capital I with a dot becomes
an i and a combining dot; a capital sigma its ordinary form. -/
def lowerChar (c : Char) : List Char :=
  let n := c.toNat
  if n < 0x80 then [lowerAscii c]
  else if n == 0x130 then ['i', Char.ofNat 0x307]
  else match lowerRuns.find? fun (first, last, _, _) => first ≤ n && n ≤ last with
    | some (first, _, step, delta) =>
      if (n - first) % step == 0 then [Char.ofNat ((n : Int) + delta).toNat] else [c]
    | none => [c]

/-- A character that a word's casing looks past. -/
def isCaseIgnorable (c : Char) : Bool :=
  let n := c.toNat
  if n < 0x80 then n == 0x27 || n == 0x2E || n == 0x3A || n == 0x5E || n == 0x60
  else inRanges caseIgnorableRanges n

/-- A cased character that a word's casing does not look past. -/
def isCased (c : Char) : Bool :=
  let n := c.toNat
  if n < 0x80 then ('A' ≤ c && c ≤ 'Z') || ('a' ≤ c && c ≤ 'z')
  else inRanges casedRanges n

/-- Whether the nearest character that casing does not look past is cased. -/
def meetsCased (cs : List Char) : Bool :=
  match cs.dropWhile isCaseIgnorable with
  | c :: _ => isCased c
  | [] => false

/-- The lower-case form of a text, given what stands before it, nearest
first. A capital sigma takes its final form after a cased character and
before none. -/
def lowerAfter (before : List Char) : List Char → List Char
  | [] => []
  | c :: rest =>
    let low :=
      if c.toNat == 0x3A3 then
        [Char.ofNat (if meetsCased before && !meetsCased rest then 0x3C2 else 0x3C3)]
      else lowerChar c
    low ++ lowerAfter (c :: before) rest

/-- A text in lower case. -/
def lower (s : String) : String := String.ofList (lowerAfter [] s.toList)

/-- The upper-case form of a character when all of it is ASCII: besides the
ASCII letters the sharp s, the dotless i, the long s and the Latin
ligatures have one. -/
def upperToAscii? (c : Char) : Option (List Char) :=
  if c.toNat < 0x80 then some [upperAscii c]
  else match c.toNat with
    | 0xDF => some ['S', 'S']
    | 0x131 => some ['I']
    | 0x17F => some ['S']
    | 0xFB00 => some ['F', 'F']
    | 0xFB01 => some ['F', 'I']
    | 0xFB02 => some ['F', 'L']
    | 0xFB03 => some ['F', 'F', 'I']
    | 0xFB04 => some ['F', 'F', 'L']
    | 0xFB05 => some ['S', 'T']
    | 0xFB06 => some ['S', 'T']
    | _ => none

/-- A text in upper case, when that is ASCII throughout. -/
def upperToAscii (s : String) : Option String :=
  (s.toList.mapM upperToAscii?).map fun pieces => String.ofList pieces.flatten

end Text

end RestCall

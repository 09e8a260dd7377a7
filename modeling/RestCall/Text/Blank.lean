/-!
# RestCall — blank characters and trimming

A character is blank when it has the Unicode property White_Space. Every
place where the library trims a text, splits a line into a key and a
value, or asks whether a name is empty uses this one class.
-/

namespace RestCall

namespace Text

/-- A blank character: one with the property White_Space. -/
def isBlank (c : Char) : Bool :=
  let n := c.toNat
  (9 ≤ n && n ≤ 13) || n == 0x20 || n == 0x85 || n == 0xA0 || n == 0x1680 ||
    (0x2000 ≤ n && n ≤ 0x200A) || n == 0x2028 || n == 0x2029 || n == 0x202F ||
    n == 0x205F || n == 0x3000

/-- A text without its leading blanks. -/
def trimStart (cs : List Char) : List Char := cs.dropWhile isBlank

/-- A text without its trailing characters of a class. -/
def trimEndOf (p : Char → Bool) (cs : List Char) : List Char := (cs.reverse.dropWhile p).reverse

/-- A text without its trailing blanks. -/
def trimEnd (cs : List Char) : List Char := trimEndOf isBlank cs

/-- A text without the blanks at either end. -/
def trim (cs : List Char) : List Char := trimEnd (trimStart cs)

/-- `trim` on strings. -/
def trimmed (s : String) : String := String.ofList (trim s.toList)

/-- A text of blanks only, the empty text among them. -/
def isBlankText (s : String) : Bool := s.toList.all isBlank

/-- A text cut at the first character of a class, which is dropped. -/
def splitFirst (p : Char → Bool) : List Char → Option (List Char × List Char)
  | [] => none
  | c :: rest =>
    if p c then some ([], rest)
    else (splitFirst p rest).map fun (before, after) => (c :: before, after)

/-- A text cut at every occurrence of a character: one piece more than
there are occurrences. -/
def splitOn (sep : Char) : List Char → List (List Char)
  | [] => [[]]
  | c :: rest =>
    if c = sep then [] :: splitOn sep rest
    else match splitOn sep rest with
      | [] => [[c]]
      | piece :: pieces => (c :: piece) :: pieces

/-- Texts joined by a separator. -/
def join (sep : String) : List String → String
  | [] => ""
  | [s] => s
  | s :: rest => s ++ sep ++ join sep rest

/-- What follows an opening text, when the text begins with it. -/
def after? : (opening cs : List Char) → Option (List Char)
  | [], cs => some cs
  | _ :: _, [] => none
  | a :: opening, c :: cs => if a = c then after? opening cs else none

end Text

end RestCall

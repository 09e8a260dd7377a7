import RestCall.Text.Numeral
import RestCall.Text.Utf8
import RestCall.Yaml.Cursor
/-!
# RestCall — YAML names, tags and directives

A node may carry a name, by which aliases refer to it, and a tag. A tag is
written in full between angle brackets or as a handle with a suffix; what
a handle stands for is declared by a directive at the top of a document.
-/

namespace RestCall

namespace Yaml

/-- A directive. -/
inductive Directive where
  | version (major minor : Nat)
  | tag (handle base : List Char)

namespace Scan

/-- Reads the name of an anchor or an alias behind its indicator. -/
def name (activity : Activity) : Scan (List Char) := do
  let start ← here
  skip 1
  let word ← run isWord
  let ended := match ← ahead with
    | [] => true
    | c :: _ => isGap c || "?:,]\x7d%@\x60".toList.contains c
  if word.isEmpty || !ended then fail .noName activity start
  return word

/-! ## Tags -/

/-- Where a part of a tag is read, for what a fault is reported as. -/
structure TagPlace where
  handle : Activity
  uri : Activity
  isDirective : Bool

/-- A tag of a node. -/
def TagPlace.node : TagPlace := ⟨.tag, .tagUri, false⟩

/-- A tag in a directive. -/
def TagPlace.directive : TagPlace := ⟨.tagDirective, .tagDirectiveUri, true⟩

/-- Reads a handle: an exclamation mark, a word and possibly a second mark. -/
def tagHandle (place : TagPlace) (start : Mark) : Scan (List Char) := do
  if !(← isNext '!') then fail .noTagMark place.handle start
  skip 1
  let word ← run isWord
  if ← isNext '!' then do
    skip 1
    return '!' :: word ++ ['!']
  else if place.isDirective && !word.isEmpty then fail .noTagMark .tagDirectiveHandle start
  else return '!' :: word

/-- How many octets the character has that begins with the given one. -/
def octetCount (octet : Nat) : Nat :=
  if octet < 0x80 then 1
  else if 0xC0 ≤ octet && octet < 0xE0 then 2
  else if 0xE0 ≤ octet && octet < 0xF0 then 3
  else if 0xF0 ≤ octet && octet < 0xF8 then 4
  else 0

/-- Reads an escaped octet. -/
def octet (place : TagPlace) (start : Mark) : Scan Nat := do
  match ← ahead with
  | '%' :: a :: b :: _ =>
    match Numeral.digits? 16 [a, b] with
    | some n => return n
    | none => fail .noUriOctet place.uri start
  | _ => fail .noUriOctet place.uri start

/-- Reads the further octets of a character. -/
def nextOctets (place : TagPlace) (start : Mark) : Nat → Scan Bytes
  | 0 => return []
  | owed + 1 => do
    let n ← octet place start
    if n < 0x80 || 0xC0 ≤ n then fail .wrongNextOctet place.uri start
    skip 3
    return n.toUInt8 :: (← nextOctets place start owed)

/-- Reads a character written as escaped octets. -/
def escapedChar (place : TagPlace) (start : Mark) : Scan (List Char) := do
  let n ← octet place start
  let count := octetCount n
  if count = 0 then fail .wrongLeadOctet place.uri start
  skip 3
  return Utf8.lenient (n.toUInt8 :: (← nextOctets place start (count - 1)))

/-- A character of a tag. In a tag between angle brackets a comma and
square brackets are admitted too. -/
def isTagChar (verbatim : Bool) (c : Char) : Bool :=
  isWord c || ";/?:@&=+$.%!~*'()".toList.contains c ||
    (verbatim && (c == ',' || c == '[' || c == ']'))

/-- Reads on in a tag. -/
def tagText (place : TagPlace) (verbatim : Bool) (start : Mark) :
    (count : Nat) → List Char → Scan (List Char)
  | 0, text => return text
  | count + 1, text => do
    match (← ahead).head? with
    | none => return text
    | some c =>
      if !isTagChar verbatim c then return text
      else if c == '%' then do
        let e ← escapedChar place start
        tagText place verbatim start count (text ++ e)
      else do
        skip 1
        tagText place verbatim start count (text ++ [c])

/-- Reads a tag or what is left of one. It may only be empty when the
handle before it belongs to it. -/
def tagUri (place : TagPlace) (verbatim : Bool) (head : List Char) (start : Mark) :
    Scan (List Char) := do
  let before := (← here).index
  let text ← tagText place verbatim start ((← ahead).length) head.tail
  if head.isEmpty && (← here).index == before then fail .noTagUri place.uri start
  return text

/-- Reads a tag as its handle, which may be empty, and its suffix. -/
def tag (inFlow : Bool) : Scan (List Char × List Char) := do
  let start ← here
  let parts ←
    if (← ahead).tail.head? == some '<' then do
      skip 2
      let uri ← tagUri .node true [] start
      if !(← isNext '>') then fail .noTagEnd .tag start
      skip 1
      pure ([], uri)
    else do
      let handle ← tagHandle .node start
      if 1 < handle.length && handle.getLast? == some '!' then do
        pure (handle, ← tagUri .node false [] start)
      else do
        let suffix ← tagUri .node false handle start
        pure (if suffix.isEmpty then ([], ['!']) else (['!'], suffix))
  if !(inFlow && (← isNext ',')) && !atGap (← ahead) then fail .noSpaceOrBreak .tag start
  return parts

/-! ## Directives -/

/-- Reads a part of a version number. -/
def versionNumber (start : Mark) : Scan Nat := do
  let digits := (← ahead).takeWhile Char.isDigit
  if 9 < digits.length then do
    skip 9
    fail .longVersion .versionDirective start
  else do
    skip digits.length
    match Numeral.digits? 10 digits with
    | some n => return n
    | none => fail .noVersion .versionDirective start

/-- Reads the value of a version directive. -/
def versionDirective (start : Mark) : Scan Directive := do
  let _ ← run isSpace
  let major ← versionNumber start
  if !(← isNext '.') then fail .noVersionPoint .versionDirective start
  skip 1
  let minor ← versionNumber start
  return .version major minor

/-- Reads the value of a tag directive. -/
def tagDirective (start : Mark) : Scan Directive := do
  let _ ← run isSpace
  let handle ← tagHandle .directive start
  if !(← ahead).head?.any isSpace then fail .noSpace .tagDirectiveEnd start
  let _ ← run isSpace
  let base ← tagUri .directive true [] start
  if !atGap (← ahead) then fail .noSpaceOrBreak .tagDirectiveEnd start
  return .tag handle base

/-- Reads a directive and the rest of its line. -/
def directive : Scan Directive := do
  let start ← here
  skip 1
  let name ← run isWord
  if name.isEmpty then fail .noDirectiveName .directive start
  if !atGap (← ahead) then fail .wrongDirectiveName .directive start
  let value ← match String.ofList name with
    | "YAML" => versionDirective start
    | "TAG" => tagDirective start
    | _ => fail .unknownDirective .directive start
  skipComment
  if !atLineEnd (← ahead) then fail .noCommentOrBreak .directive start
  let _ ← endLine
  return value

end Scan

end Yaml

end RestCall

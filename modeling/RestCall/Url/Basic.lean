import RestCall.Encoding.Percent
/-!
# RestCall — absolute URLs

A URL is kept in normal form, part by part. Its text is the parts put
together again, so two URLs are equal when their texts are.
-/

namespace RestCall

/-- An absolute URL in normal form. The authority holds user information,
host and port as they are written; `host` is the host alone, where there is
one that is not empty. -/
structure Url where
  scheme : String
  authority : Option String
  host : Option String
  path : String
  query : Option String
  fragment : Option String
deriving Repr, DecidableEq

namespace Url

/-- Why a text is no absolute URL. -/
inductive Flaw where
  | relative
  | emptyHost
  | domainName
  | port
  | ipv4Address
  | ipv6Address
  | hostCharacter
deriving Repr, DecidableEq

/-- The wording of a flaw. -/
def Flaw.describe : Flaw → String
  | .relative => "relative URL without a base"
  | .emptyHost => "empty host"
  | .domainName => "invalid international domain name"
  | .port => "invalid port number"
  | .ipv4Address => "invalid IPv4 address"
  | .ipv6Address => "invalid IPv6 address"
  | .hostCharacter => "invalid domain character"

/-- A part that follows a mark, when it is there. -/
def marked (mark : String) : Option String → String
  | none => ""
  | some part => mark ++ part

/-- The text of a URL. -/
def text (u : Url) : String :=
  u.scheme ++ ":" ++ marked "//" u.authority ++ u.path ++ marked "?" u.query ++
    marked "#" u.fragment

/-- Whether nothing stands after the path. -/
def isBare (u : Url) : Bool := u.query.isNone && u.fragment.isNone

/-! ## Characters that are escaped -/

/-- Controls and everything beyond ASCII. -/
def isControl (c : Char) : Bool := c.toNat < 0x20 || 0x7E < c.toNat

/-- Characters escaped in a fragment. -/
def inFragmentSet (c : Char) : Bool :=
  isControl c || c == ' ' || c == '\x22' || c == '<' || c == '>' || c == '\x60'

/-- Characters escaped in a path. -/
def inPathSet (c : Char) : Bool :=
  inFragmentSet c || c == '#' || c == '?' || c == '\x7b' || c == '\x7d'

/-- Characters escaped in user information. -/
def inUserSet (c : Char) : Bool :=
  inPathSet c || c == '/' || c == ':' || c == ';' || c == '=' || c == '@' || c == '[' ||
    c == '\\' || c == ']' || c == '^' || c == '|'

/-- Characters escaped in a query; a web scheme escapes the apostrophe too. -/
def inQuerySet (special : Bool) (c : Char) : Bool :=
  isControl c || c == ' ' || c == '\x22' || c == '#' || c == '<' || c == '>' ||
    (special && c == '\x27')

/-- A text with the characters of a set escaped. -/
def escaped (set : Char → Bool) (cs : List Char) : List Char :=
  cs.flatMap fun c => if set c then (String.utf8EncodeChar c).flatMap Percent.escape else [c]

end Url

end RestCall

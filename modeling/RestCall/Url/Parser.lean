import RestCall.Url.Address
import RestCall.Url.Domain
/-!
# RestCall — reading URLs

A text is first freed of surrounding blanks and controls. Tabs and line
ends inside it do not count, but a drive at the front of a file path ends
at one, so they are left out part by part. A number sign ends everything
but the fragment, and a question mark everything but the query, so these
two are cut off first; what is left is a scheme, an authority where there
is one, and a path.
-/

namespace RestCall

namespace Url

/-- The schemes of the web, with their ports. -/
def webPort? (scheme : String) : Option (Option Nat) :=
  match scheme with
  | "http" => some (some 80)
  | "https" => some (some 443)
  | "ws" => some (some 80)
  | "wss" => some (some 443)
  | "ftp" => some (some 21)
  | "file" => some none
  | _ => none

/-- A text without surrounding blanks and controls. -/
def trimmed (cs : List Char) : List Char :=
  let edge (c : Char) : Bool := c.toNat ≤ 0x20
  Text.trimEndOf edge (cs.dropWhile edge)

/-- A tab or a line end. -/
def isBreak (c : Char) : Bool := c == '\t' || c == '\n' || c == '\r'

/-- A text without its tabs and line ends. -/
def unbroken (cs : List Char) : List Char := cs.filter fun c => !isBreak c

/-- The scheme of a text and what follows its colon. -/
def scheme? (cs : List Char) : Option (String × List Char) :=
  match cs with
  | c :: _ =>
    if c.isAlpha then
      match Text.splitFirst (· == ':') cs with
      | none => none
      | some (front, rest) =>
        let name := unbroken front
        if name.all fun c => c.isAlphanum || c == '+' || c == '-' || c == '.' then
          some (String.ofList (name.map Text.lowerAscii), rest)
        else none
    else none
  | [] => none

/-- A text cut before the first character of a class. -/
def cutBefore (p : Char → Bool) (cs : List Char) : List Char × List Char :=
  (cs.takeWhile fun c => !p c, cs.dropWhile fun c => !p c)

/-- A text cut at the first mark, which belongs to neither part. -/
def cutAt (mark : Char) (cs : List Char) : List Char × Option (List Char) :=
  match Text.splitFirst (· == mark) cs with
  | none => (cs, none)
  | some (before, after) => (before, some after)

/-! ## Authority -/

/-- A text cut at the last occurrence of a mark. -/
def cutAtLast (mark : Char) (cs : List Char) : Option (List Char × List Char) :=
  (Text.splitFirst (· == mark) cs.reverse).map fun (after, before) =>
    (before.reverse, after.reverse)

/-- User information in normal form, with its at sign; an empty password
leaves no colon, and nothing at all no at sign. -/
def userText (cs : List Char) : List Char :=
  let (name, password) := cutAt ':' cs
  let secret := password.getD []
  if name.isEmpty && secret.isEmpty then []
  else
    escaped inUserSet name ++
      (if secret.isEmpty then [] else ':' :: escaped inUserSet secret) ++ ['@']

/-- A host and what follows it: a colon inside brackets does not end it. -/
def cutHost : (bracketed : Bool) → List Char → List Char × List Char
  | _, [] => ([], [])
  | bracketed, c :: rest =>
    if c = ':' ∧ bracketed = false then ([], c :: rest)
    else
      let inside := if c = '[' then true else if c = ']' then false else bracketed
      let (host, after) := cutHost inside rest
      (c :: host, after)

/-- A host in brackets in normal form. -/
def bracketedHost (cs : List Char) : Except Flaw (List Char) :=
  match cs.getLast? with
  | some ']' =>
    match ipv6? (cs.drop 1).dropLast with
    | some words => .ok ('[' :: ipv6Text words ++ [']'])
    | none => .error .ipv6Address
  | _ => .error .ipv6Address

/-- The host of a web URL in normal form. -/
def webHost (cs : List Char) : Except Flaw (List Char) :=
  match cs with
  | [] => .error .emptyHost
  | '[' :: _ => bracketedHost cs
  | _ =>
    match (Utf8.strict? (Percent.decode cs)).bind asciiDomain? with
    | none => .error .domainName
    | some [] => .error .emptyHost
    | some domain =>
      if endsInNumber domain then
        match ipv4? domain with
        | some address => .ok address.toList
        | none => .error .ipv4Address
      else .ok domain

/-- A character that no host holds. -/
def isForbiddenHost (c : Char) : Bool :=
  c.toNat = 0 ||
    [' ', '#', '/', ':', '<', '>', '?', '@', '[', '\\', ']', '^', '|'].contains c

/-- The host of any other URL in normal form. -/
def plainHost (cs : List Char) : Except Flaw (List Char) :=
  match cs with
  | '[' :: _ => bracketedHost cs
  | _ =>
    if cs.any isForbiddenHost then .error .hostCharacter else .ok (escaped isControl cs)

/-- The port after a host, with its colon; the port of the scheme is left
out. What follows it, which a backslash begins, comes second. -/
def portText (standard : Option Nat) (cs : List Char) :
    Except Flaw (List Char × List Char) :=
  match cs with
  | ':' :: rest =>
    let (digits, after) := (rest.takeWhile Char.isDigit, rest.dropWhile Char.isDigit)
    let port := (Numeral.digits? 10 digits).getD 0
    let shown := if digits.isEmpty || standard == some port then []
      else ':' :: (toString port).toList
    if 65535 < port then .error .port
    else match after with
      | [] => .ok (shown, [])
      | '\\' :: _ => .ok (shown, after)
      | _ => .error .port
  | _ => .ok ([], cs)

/-- An authority in normal form. -/
structure Authority where
  text : List Char
  host : List Char
  rest : List Char

/-- An authority in normal form, of a web URL with its port or of another
one. User information needs a host, and so does the mark behind it unless
the whole text ends there. -/
def Authority.parse (web : Option (Option Nat)) (endsText : Bool) (cs : List Char) :
    Except Flaw Authority := do
  let (user, hostPort) := match cutAtLast '@' cs with
    | some (user, rest) => (some user, rest)
    | none => (none, cs)
  if user == some [] && hostPort.isEmpty && !endsText then throw .emptyHost
  let shown := userText (user.getD [])
  let (hostText, after) := cutHost false hostPort
  let host ← match web with
    | some _ => webHost hostText
    | none => plainHost hostText
  if host.isEmpty && after.head? == some ':' then throw .emptyHost
  let (port, rest) ← portText web.join after
  if host.isEmpty && !shown.isEmpty then throw .emptyHost
  return ⟨shown ++ host ++ port, host, rest⟩

/-! ## Path -/

/-- Whether a segment stands for its own directory. -/
def isDot (cs : List Char) : Bool :=
  let s := String.ofList (cs.map Text.lowerAscii)
  s == "." || s == "%2e"

/-- Whether a segment stands for the directory above. -/
def isDotDot (cs : List Char) : Bool :=
  let s := String.ofList (cs.map Text.lowerAscii)
  s == ".." || s == "%2e." || s == ".%2e" || s == "%2e%2e"

/-- Whether a text begins with a drive, a letter followed by a colon or a
bar, and either ends there or goes on with a backslash. -/
def beginsWithDrive : List Char → Bool
  | c :: mark :: rest =>
    c.isAlpha && (mark == ':' || mark == '|') && rest.head?.all (· == '\\')
  | _ => false

/-- A letter followed by a colon or a bar: a drive. -/
def isDrive (cs : List Char) : Bool := cs.length == 2 && beginsWithDrive cs

/-- A drive that a tab or a line end cuts off from what follows it in the
segment, and what follows it. -/
def cutDrive? (segment : List Char) : Option (List Char × List Char) :=
  match segment.dropWhile isBreak with
  | c :: front =>
    match front.dropWhile isBreak with
    | ':' :: rest =>
      if c.isAlpha && rest.head?.any isBreak && !(unbroken rest).isEmpty then
        some ([c, ':'], unbroken rest)
      else none
    | _ => none
  | [] => none

/-- A path as far as it is resolved: its segments, the last one first, and
whether the first one was read as a drive. -/
structure Trail where
  segments : List (List Char)
  drive : Bool

namespace Trail

/-- Adds a segment. -/
def add (segment : List Char) (t : Trail) : Trail :=
  { t with segments := segment :: t.segments }

/-- Leaves the last segment. A drive is not left. -/
def up (t : Trail) : Trail :=
  match t.segments with
  | [] => t
  | segment :: rest => if beginsWithDrive segment then t else { t with segments := rest }

/-- Follows a segment in normal form; a relative one that ends the path
leaves an empty segment behind. -/
def follow (file last : Bool) (segment : List Char) (t : Trail) : Trail :=
  if isDotDot segment then if last then t.up.add [] else t.up
  else if isDot segment then if last then t.add [] else t
  else
    let root := t.segments.isEmpty
    { t.add segment with
      drive := t.drive || (file && root && isDrive segment && segment.getLast? == some ':') }

/-- Follows a segment as it is written. A drive that is cut off from the
rest at the front of a file path becomes a segment of its own. -/
def enter (file last : Bool) (segment : List Char) (t : Trail) : Trail :=
  match if file && t.segments.isEmpty then cutDrive? segment else none with
  | some (drive, rest) => (t.add drive).add (escaped inPathSet rest)
  | none => t.follow file last (escaped inPathSet (unbroken segment))

/-- Follows segments to the end of the path. -/
def enterAll (file : Bool) : List (List Char) → Trail → Trail
  | [], t => t
  | [segment], t => t.enter file true segment
  | segment :: rest, t => enterAll file rest (t.enter file false segment)

/-- The path in normal form. Empty segments at the front of a file path do
not count. -/
def text (file : Bool) (t : Trail) : List Char :=
  let segments := t.segments.reverse
  let shown := if file then segments.dropWhile List.isEmpty else segments
  if shown.isEmpty then ['/'] else shown.flatMap ('/' :: ·)

end Trail

/-- The segments of a text, cut at slashes; in a web URL a backslash is one
too. -/
def segmentsOf (web : Bool) (cs : List Char) : List (List Char) :=
  Text.splitOn '/' (if web then cs.map fun c => if c = '\\' then '/' else c else cs)

/-- A text whose first slash has been taken, resolved as a path. -/
def resolved (web file : Bool) (cs : List Char) : Trail :=
  Trail.enterAll file (segmentsOf web cs) ⟨[], false⟩

/-- A text without a slash at its front. -/
def dropSlash (web : Bool) : List Char → List Char
  | '/' :: rest => rest
  | '\\' :: rest => if web then rest else '\\' :: rest
  | cs => cs

/-! ## The whole -/

/-- A hierarchy of a URL: authority, host and path. -/
structure Hierarchy where
  authority : Option (List Char)
  host : List Char
  path : List Char

/-- Whether a character is a slash, or a backslash in a web URL. -/
def isSlash (web : Bool) (c : Char) : Bool := c == '/' || (web && c == '\\')

/-- The hierarchy of a web URL: slashes before the authority do not count. -/
def webHierarchy (port : Option Nat) (cs : List Char) : Except Flaw Hierarchy := do
  let (front, path) := cutBefore (isSlash true) (cs.dropWhile (isSlash true))
  let a ← Authority.parse (some port) false front
  return ⟨some a.text, a.host, (resolved true false (dropSlash true (a.rest ++ path))).text false⟩

/-- What follows a slash, tabs and line ends before it not counted. -/
def afterSlash? (cs : List Char) : Option (List Char) :=
  match cs.dropWhile isBreak with
  | c :: rest => if isSlash true c then some rest else none
  | [] => none

/-- A text whose first slash, if there is one, has been taken, as the path
of a file URL with a host. The host of a path with a drive is left out. -/
def filePath (host cs : List Char) : Hierarchy :=
  let path := resolved true true ((afterSlash? cs).getD cs)
  let host := if path.drive then [] else host
  ⟨some host, host, path.text true⟩

/-- The hierarchy of a file URL. Two slashes announce a host; the local one
is left out. -/
def fileHierarchy (cs : List Char) : Except Flaw Hierarchy :=
  match (afterSlash? cs).bind afterSlash? with
  | none => return filePath [] cs
  | some rest => do
    let (front, path) := cutBefore (isSlash true) rest
    let name := unbroken front
    if isDrive name then return ⟨some [], [], (resolved true true rest).text true⟩
    else
      let host ← if name.isEmpty then pure [] else webHost name
      return filePath (if host == "localhost".toList then [] else host) path

/-- The hierarchy of any other URL. Without an authority a path that began
with two slashes would be taken for one, so a dot is put before it; a path
without a slash is not divided. -/
def plainHierarchy (endsText : Bool) (cs : List Char) : Except Flaw Hierarchy :=
  match cs with
  | '/' :: '/' :: rest => do
    let (front, path) := cutBefore (isSlash false) rest
    let a ← Authority.parse none (endsText && path.isEmpty) front
    let text := a.rest ++ path
    return ⟨some a.text, a.host,
      if text.isEmpty then [] else (resolved false false (dropSlash false text)).text false⟩
  | '/' :: rest =>
    let path := (resolved false false rest).text false
    return ⟨none, [], if path.take 2 == ['/', '/'] then ['/', '.'] ++ path else path⟩
  | _ => return ⟨none, [], escaped isControl cs⟩

/-- The URL of a text. -/
def parse (s : String) : Except Flaw Url := do
  match scheme? (trimmed s.toList) with
  | none => throw .relative
  | some (scheme, rest) =>
    let (front, fragment) := cutAt '#' rest
    let (body, query) := cutAt '?' front
    let web := webPort? scheme
    let h ← match web with
      | some (some port) => webHierarchy (some port) (unbroken body)
      | some none => fileHierarchy body
      | none => plainHierarchy (query.isNone && fragment.isNone) (unbroken body)
    return {
      scheme := scheme
      authority := h.authority.map String.ofList
      host := if h.host.isEmpty then none else some (String.ofList h.host)
      path := String.ofList h.path
      query := query.map fun q => String.ofList (escaped (inQuerySet web.isSome) (unbroken q))
      fragment := fragment.map fun f => String.ofList (escaped inFragmentSet (unbroken f)) }

end Url

end RestCall

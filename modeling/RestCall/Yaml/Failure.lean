import RestCall.Shape.Misfit
/-!
# RestCall — why a YAML text is refused

A fault of the text is found at a place, mostly while something that
began earlier was being read; both places are reported, unless they are
the same. A value of the wrong shape is reported at its place and with the
path that leads to it. Lines and columns are counted from one in messages
and from zero here; a fault on the very first character is reported
without its place.
-/

namespace RestCall

namespace Yaml

/-- A place in a text. -/
structure Mark where
  index : Nat
  line : Nat
  column : Nat
deriving Repr, DecidableEq, Inhabited

/-- The beginning of a text. -/
def Mark.zero : Mark := ⟨0, 0, 0⟩

/-- Whether a mark is the first place of the text. -/
def Mark.isFirst (m : Mark) : Bool := m.line == 0 && m.column == 0

/-- A mark as messages append it. -/
def Mark.suffix (m : Mark) : String :=
  if m.isFirst then "" else s!" at line {m.line + 1} column {m.column + 1}"

/-- What was being read when a fault was found. -/
inductive Activity where
  | simpleKey
  | token
  | anchor
  | alias
  | tag
  | tagUri
  | directive
  | versionDirective
  | tagDirective
  | tagDirectiveHandle
  | tagDirectiveUri
  | tagDirectiveEnd
  | quoted
  | escape
  | plain
  | block
  | node
  | blockNode
  | flowNode
  | blockSequence
  | blockMapping
  | flowSequence
  | flowMapping

/-- The wording of an activity. -/
def Activity.describe : Activity → String
  | .simpleKey => "while scanning a simple key"
  | .token => "while scanning for the next token"
  | .anchor => "while scanning an anchor"
  | .alias => "while scanning an alias"
  | .tag => "while scanning a tag"
  | .tagUri => "while parsing a tag"
  | .directive => "while scanning a directive"
  | .versionDirective => "while scanning a %YAML directive"
  | .tagDirective => "while scanning a tag directive"
  | .tagDirectiveHandle => "while parsing a tag directive"
  | .tagDirectiveUri => "while parsing a %TAG directive"
  | .tagDirectiveEnd => "while scanning a %TAG directive"
  | .quoted => "while scanning a quoted scalar"
  | .escape => "while parsing a quoted scalar"
  | .plain => "while scanning a plain scalar"
  | .block => "while scanning a block scalar"
  | .node => "while parsing a node"
  | .blockNode => "while parsing a block node"
  | .flowNode => "while parsing a flow node"
  | .blockSequence => "while parsing a block collection"
  | .blockMapping => "while parsing a block mapping"
  | .flowSequence => "while parsing a flow sequence"
  | .flowMapping => "while parsing a flow mapping"

/-- What is wrong with a text. -/
inductive Cause where
  | noColon
  | noTokenStart
  | noSequenceHere
  | noKeyHere
  | noValueHere
  | noName
  | noTagMark
  | noTagEnd
  | noTagUri
  | noUriOctet
  | wrongLeadOctet
  | wrongNextOctet
  | noDirectiveName
  | wrongDirectiveName
  | unknownDirective
  | noCommentOrBreak
  | longVersion
  | noVersion
  | noVersionPoint
  | noSpace
  | noSpaceOrBreak
  | documentInQuotes
  | endInQuotes
  | unknownEscape
  | noHexDigit
  | noScalarValue
  | colonInFlow
  | tabInPlain
  | zeroIndent
  | tabInBlock
  | noDocumentStart
  | repeatedVersion
  | repeatedHandle
  | wrongVersion
  | unknownHandle
  | noContent
  | noDash
  | noKey
  | noSequenceComma
  | noMappingComma

/-- The wording of a cause. -/
def Cause.describe : Cause → String
  | .noColon => "could not find expected ':'"
  | .noTokenStart => "found character that cannot start any token"
  | .noSequenceHere => "block sequence entries are not allowed in this context"
  | .noKeyHere => "mapping keys are not allowed in this context"
  | .noValueHere => "mapping values are not allowed in this context"
  | .noName => "did not find expected alphabetic or numeric character"
  | .noTagMark => "did not find expected '!'"
  | .noTagEnd => "did not find the expected '>'"
  | .noTagUri => "did not find expected tag URI"
  | .noUriOctet => "did not find URI escaped octet"
  | .wrongLeadOctet => "found an incorrect leading UTF-8 octet"
  | .wrongNextOctet => "found an incorrect trailing UTF-8 octet"
  | .noDirectiveName => "could not find expected directive name"
  | .wrongDirectiveName => "found unexpected non-alphabetical character"
  | .unknownDirective => "found unknown directive name"
  | .noCommentOrBreak => "did not find expected comment or line break"
  | .longVersion => "found extremely long version number"
  | .noVersion => "did not find expected version number"
  | .noVersionPoint => "did not find expected digit or '.' character"
  | .noSpace => "did not find expected whitespace"
  | .noSpaceOrBreak => "did not find expected whitespace or line break"
  | .documentInQuotes => "found unexpected document indicator"
  | .endInQuotes => "found unexpected end of stream"
  | .unknownEscape => "found unknown escape character"
  | .noHexDigit => "did not find expected hexadecimal number"
  | .noScalarValue => "found invalid Unicode character escape code"
  | .colonInFlow => "found unexpected ':'"
  | .tabInPlain => "found a tab character that violates indentation"
  | .zeroIndent => "found an indentation indicator equal to 0"
  | .tabInBlock => "found a tab character where an indentation space is expected"
  | .noDocumentStart => "did not find expected <document start>"
  | .repeatedVersion => "found duplicate %YAML directive"
  | .repeatedHandle => "found duplicate %TAG directive"
  | .wrongVersion => "found incompatible YAML document"
  | .unknownHandle => "found undefined tag handle"
  | .noContent => "did not find expected node content"
  | .noDash => "did not find expected '-' indicator"
  | .noKey => "did not find expected key"
  | .noSequenceComma => "did not find expected ',' or ']'"
  | .noMappingComma => "did not find expected ',' or '\x7d'"

/-- A fault of a text: what is wrong, where, and what was being read since
when. -/
structure Fault where
  cause : Cause
  place : Mark
  during : Option (Activity × Mark)

/-- A fault in words. The place where the activity began is left out when
it is the place of the fault. -/
def Fault.describe (f : Fault) : String :=
  f.cause.describe ++ f.place.suffix ++
    match f.during with
    | none => ""
    | some (activity, start) =>
      ", " ++ activity.describe ++
        if start.line == f.place.line && start.column == f.place.column then ""
        else start.suffix

/-- A step from the root of a document to a value in it. -/
inductive Step where
  | member (key : List Char)
  | item (index : Nat)
  | unknown

/-- The way from a value up to the root of its document, innermost first. -/
abbrev Path := List Step

/-- A path in words; nothing at the root. -/
def Path.describe : Path → String
  | [] => ""
  | .member key :: above => (if above.isEmpty then "" else Path.describe above ++ ".") ++
      String.ofList key
  | .item index :: above => (if above.isEmpty then "." else Path.describe above) ++ s!"[{index}]"
  | .unknown :: above => (if above.isEmpty then "" else Path.describe above ++ ".") ++ "?"

/-- How YAML names what it found. -/
def wording : Shape.Wording := ⟨"unit value", Decimal.pointed⟩

/-- Why a document cannot be read. -/
inductive Failure where
  | text (f : Fault)
  | control (position : Nat)
  | endOfDocument
  | severalDocuments
  | tooDeep (place : Mark)
  | tooManyAliases
  | unknownAnchor (place : Mark)
  | located (m : Shape.Misfit) (path : Path) (place : Mark)
  | loose (m : Shape.Misfit)

/-- A failure in words. -/
def Failure.describe : Failure → String
  | .text f => f.describe
  | .control 0 => "control characters are not allowed"
  | .control position => s!"control characters are not allowed at position {position}"
  | .endOfDocument => "EOF while parsing a value"
  | .severalDocuments =>
    "deserializing from YAML containing more than one document is not supported"
  | .tooDeep place => "recursion limit exceeded" ++ place.suffix
  | .tooManyAliases => "repetition limit exceeded"
  | .unknownAnchor place => "unknown anchor" ++ place.suffix
  | .located m path place =>
    (if path.isEmpty then "" else path.describe ++ ": ") ++ m.describe wording ++ place.suffix
  | .loose m => m.describe wording

end Yaml

end RestCall

import SwaggerPress.Mismatch

/-!
    What can go wrong when a YAML text is read, and where. A text that does not follow the grammar
    has a *cause* at the mark where reading stopped and, mostly, an *activity* that had started at an
    earlier mark:

        did not find expected ',' or ']' at line 3 column 1, while parsing a flow sequence at line 2 column 5

    A well-formed text may still not be what it is read as; then the fault tells the way to the
    offending node from the root. The first place of a text is never spelled out, nor is a way whose
    words are those for the root. -/

namespace SwaggerPress.Yaml

/-- A place in a text, all counted from zero: the bytes before it, its line, and its column in
characters. -/
structure Mark where
  index : Nat := 0
  line : Nat := 0
  column : Nat := 0
  deriving DecidableEq, Inhabited

/-- Whether a mark stands at the first place of a text. -/
def Mark.isFirst (m : Mark) : Bool := m.line = 0 && m.column = 0

/-- The words that lead to a place; none for the first one. -/
def Mark.locate (m : Mark) : String :=
  if m.isFirst then "" else s!" at line {m.line + 1} column {m.column + 1}"

/-- Why a text does not follow the grammar. -/
inductive Cause where
  | strayCharacter
  | colonMissing
  | entryMisplaced
  | keyMisplaced
  | valueMisplaced
  | unknownDirective
  | commentOrBreakExpected
  | directiveNameExpected
  | directiveNameBroken
  | versionDigitExpected
  | versionTooLong
  | versionExpected
  | blankExpected
  | blankOrBreakExpected
  | nameExpected
  | angleExpected
  | bangExpected
  | tagUriExpected
  | uriOctetExpected
  | uriLeadingOctet
  | uriTrailingOctet
  | zeroIndent
  | tabForSpace
  | documentMarker
  | endOfText
  | unknownEscape
  | hexDigitExpected
  | invalidEscapeCode
  | strayColon
  | tabInIndent
  | documentStartExpected
  | versionRepeated
  | versionUnsupported
  | handleRepeated
  | handleUnknown
  | nodeExpected
  | entryExpected
  | keyExpected
  | listCommaExpected
  | mapCommaExpected
  deriving DecidableEq

def Cause.message : Cause → String
  | .strayCharacter => "found character that cannot start any token"
  | .colonMissing => "could not find expected ':'"
  | .entryMisplaced => "block sequence entries are not allowed in this context"
  | .keyMisplaced => "mapping keys are not allowed in this context"
  | .valueMisplaced => "mapping values are not allowed in this context"
  | .unknownDirective => "found unknown directive name"
  | .commentOrBreakExpected => "did not find expected comment or line break"
  | .directiveNameExpected => "could not find expected directive name"
  | .directiveNameBroken => "found unexpected non-alphabetical character"
  | .versionDigitExpected => "did not find expected digit or '.' character"
  | .versionTooLong => "found extremely long version number"
  | .versionExpected => "did not find expected version number"
  | .blankExpected => "did not find expected whitespace"
  | .blankOrBreakExpected => "did not find expected whitespace or line break"
  | .nameExpected => "did not find expected alphabetic or numeric character"
  | .angleExpected => "did not find the expected '>'"
  | .bangExpected => "did not find expected '!'"
  | .tagUriExpected => "did not find expected tag URI"
  | .uriOctetExpected => "did not find URI escaped octet"
  | .uriLeadingOctet => "found an incorrect leading UTF-8 octet"
  | .uriTrailingOctet => "found an incorrect trailing UTF-8 octet"
  | .zeroIndent => "found an indentation indicator equal to 0"
  | .tabForSpace => "found a tab character where an indentation space is expected"
  | .documentMarker => "found unexpected document indicator"
  | .endOfText => "found unexpected end of stream"
  | .unknownEscape => "found unknown escape character"
  | .hexDigitExpected => "did not find expected hexadecimal number"
  | .invalidEscapeCode => "found invalid Unicode character escape code"
  | .strayColon => "found unexpected ':'"
  | .tabInIndent => "found a tab character that violates indentation"
  | .documentStartExpected => "did not find expected <document start>"
  | .versionRepeated => "found duplicate %YAML directive"
  | .versionUnsupported => "found incompatible YAML document"
  | .handleRepeated => "found duplicate %TAG directive"
  | .handleUnknown => "found undefined tag handle"
  | .nodeExpected => "did not find expected node content"
  | .entryExpected => "did not find expected '-' indicator"
  | .keyExpected => "did not find expected key"
  | .listCommaExpected => "did not find expected ',' or ']'"
  | .mapCommaExpected => "did not find expected ',' or '\x7d'"

/-- What was being read when a cause was found. -/
inductive Activity where
  | token
  | simpleKey
  | directive
  | versionDirective
  | tagDirective
  | tagDirectiveHandle
  | tagDirectiveBang
  | tagDirectiveUri
  | anchor
  | alias
  | tag
  | tagUri
  | blockScalar
  | quotedScalar
  | escape
  | plainScalar
  | node
  | blockNode
  | flowNode
  | blockCollection
  | blockMapping
  | flowSequence
  | flowMapping
  deriving DecidableEq

def Activity.message : Activity → String
  | .token => "while scanning for the next token"
  | .simpleKey => "while scanning a simple key"
  | .directive => "while scanning a directive"
  | .versionDirective => "while scanning a %YAML directive"
  | .tagDirective => "while scanning a %TAG directive"
  | .tagDirectiveHandle => "while scanning a tag directive"
  | .tagDirectiveBang => "while parsing a tag directive"
  | .tagDirectiveUri => "while parsing a %TAG directive"
  | .anchor => "while scanning an anchor"
  | .alias => "while scanning an alias"
  | .tag => "while scanning a tag"
  | .tagUri => "while parsing a tag"
  | .blockScalar => "while scanning a block scalar"
  | .quotedScalar => "while scanning a quoted scalar"
  | .escape => "while parsing a quoted scalar"
  | .plainScalar => "while scanning a plain scalar"
  | .node => "while parsing a node"
  | .blockNode => "while parsing a block node"
  | .flowNode => "while parsing a flow node"
  | .blockCollection => "while parsing a block collection"
  | .blockMapping => "while parsing a block mapping"
  | .flowSequence => "while parsing a flow sequence"
  | .flowMapping => "while parsing a flow mapping"

/-- One step of the way from the root of a document to a node. -/
inductive Step where
  | key (name : String)
  | complexKey
  | item (index : Nat)
  deriving DecidableEq

/-- The words for the root of a document. -/
def rootWay : String := "."

/-- The words for a node one step below another, which is the root if it has none. -/
def Step.extend (parent : Option String) (step : Step) : String :=
  let front := match parent with
    | some way => way ++ "."
    | none => ""
  match step with
  | .key name => front ++ name
  | .complexKey => front ++ "?"
  | .item index => s!"{parent.getD rootWay}[{index}]"

/-- The words for the way to a node. -/
def describePath (path : List Step) : String :=
  (path.foldl (fun way step => some (step.extend way)) none).getD rootWay

/-- A YAML text that could not be read. -/
inductive Fault where
  | forbiddenCharacter (offset : Nat)
  | malformed (cause : Cause) (place : Mark) (within : Option (Activity × Mark))
  | unknownAnchor (place : Mark)
  | nothingThere
  | severalDocuments
  | mismatch (m : Mismatch) (place : Mark) (path : List Step)
  deriving DecidableEq

def Fault.message : Fault → String
  | .forbiddenCharacter offset =>
    "control characters are not allowed" ++ if offset = 0 then "" else s!" at position {offset}"
  | .malformed cause place none => cause.message ++ place.locate
  | .malformed cause place (some (activity, start)) =>
    let from_ := if start.line = place.line && start.column = place.column then "" else start.locate
    s!"{cause.message}{place.locate}, {activity.message}{from_}"
  | .unknownAnchor place => "unknown anchor" ++ place.locate
  | .nothingThere => "EOF while parsing a value"
  | .severalDocuments =>
    "deserializing from YAML containing more than one document is not supported"
  | .mismatch m place path =>
    let way := describePath path
    let at_ := if way = rootWay then "" else way ++ ": "
    s!"{at_}{m.message .yaml}{place.locate}"

end SwaggerPress.Yaml

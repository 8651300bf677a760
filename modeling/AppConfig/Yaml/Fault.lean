/-!
# AppConfig.Yaml.Fault

What can be wrong with the characters of a document, and where.

* `Mark` — a place in the text.
* `Problem` — what was found there.
* `Context` — what was being read, with the place where it began.
* `Fault` — the three together, and its message.
-/

namespace AppConfig.Yaml

/-- A place in a text: bytes before it, lines before it, characters before it on its line. -/
structure Mark where
  index : Nat
  line : Nat
  column : Nat
  deriving DecidableEq, Repr, Inhabited

namespace Mark

def origin : Mark := ⟨0, 0, 0⟩

/-- The first line and column; no place is mentioned for it. -/
def isOrigin (m : Mark) : Bool := m.line == 0 && m.column == 0

def samePlace (m n : Mark) : Bool := m.line == n.line && m.column == n.column

/-- Lines and columns are counted from one in messages. -/
def describe (m : Mark) : String :=
  " at line " ++ toString (m.line + 1) ++ " column " ++ toString (m.column + 1)

/-- The place, unless it is the first one. -/
def describeUnlessOrigin (m : Mark) : String := if m.isOrigin then "" else m.describe

end Mark

inductive Problem where
  | controlCharacter
  | missingColon
  | blockEntryNotAllowed
  | mappingKeyNotAllowed
  | mappingValueNotAllowed
  | noTokenStart
  | missingDirectiveName
  | unknownDirective
  | nonAlphabeticInDirective
  | missingCommentOrBreak
  | missingVersionSeparator
  | missingVersionNumber
  | longVersionNumber
  | missingBlank
  | missingBlankOrBreak
  | missingBang
  | missingTagUri
  | missingUriOctet
  | badLeadingOctet
  | badTrailingOctet
  | missingAngle
  | missingName
  | zeroIndentation
  | tabInIndentation
  | documentIndicator
  | endOfStream
  | unknownEscape
  | missingHexNumber
  | badCharacterCode
  | unexpectedColon
  | tabViolatesIndentation
  | missingDocumentStart
  | undefinedTagHandle
  | missingNodeContent
  | missingDash
  | missingKey
  | missingCommaOrBracket
  | missingCommaOrBrace
  | duplicateVersionDirective
  | incompatibleVersion
  | duplicateTagDirective
  deriving DecidableEq, Repr

namespace Problem

def message : Problem → String
  | .controlCharacter => "control characters are not allowed"
  | .missingColon => "could not find expected ':'"
  | .blockEntryNotAllowed => "block sequence entries are not allowed in this context"
  | .mappingKeyNotAllowed => "mapping keys are not allowed in this context"
  | .mappingValueNotAllowed => "mapping values are not allowed in this context"
  | .noTokenStart => "found character that cannot start any token"
  | .missingDirectiveName => "could not find expected directive name"
  | .unknownDirective => "found unknown directive name"
  | .nonAlphabeticInDirective => "found unexpected non-alphabetical character"
  | .missingCommentOrBreak => "did not find expected comment or line break"
  | .missingVersionSeparator => "did not find expected digit or '.' character"
  | .missingVersionNumber => "did not find expected version number"
  | .longVersionNumber => "found extremely long version number"
  | .missingBlank => "did not find expected whitespace"
  | .missingBlankOrBreak => "did not find expected whitespace or line break"
  | .missingBang => "did not find expected '!'"
  | .missingTagUri => "did not find expected tag URI"
  | .missingUriOctet => "did not find URI escaped octet"
  | .badLeadingOctet => "found an incorrect leading UTF-8 octet"
  | .badTrailingOctet => "found an incorrect trailing UTF-8 octet"
  | .missingAngle => "did not find the expected '>'"
  | .missingName => "did not find expected alphabetic or numeric character"
  | .zeroIndentation => "found an indentation indicator equal to 0"
  | .tabInIndentation => "found a tab character where an indentation space is expected"
  | .documentIndicator => "found unexpected document indicator"
  | .endOfStream => "found unexpected end of stream"
  | .unknownEscape => "found unknown escape character"
  | .missingHexNumber => "did not find expected hexadecimal number"
  | .badCharacterCode => "found invalid Unicode character escape code"
  | .unexpectedColon => "found unexpected ':'"
  | .tabViolatesIndentation => "found a tab character that violates indentation"
  | .missingDocumentStart => "did not find expected <document start>"
  | .undefinedTagHandle => "found undefined tag handle"
  | .missingNodeContent => "did not find expected node content"
  | .missingDash => "did not find expected '-' indicator"
  | .missingKey => "did not find expected key"
  | .missingCommaOrBracket => "did not find expected ',' or ']'"
  | .missingCommaOrBrace => "did not find expected ',' or '\x7d'"
  | .duplicateVersionDirective => "found duplicate %YAML directive"
  | .incompatibleVersion => "found incompatible YAML document"
  | .duplicateTagDirective => "found duplicate %TAG directive"

end Problem

inductive Context where
  | simpleKey
  | nextToken
  | directive
  | versionDirective
  | tagDirective
  | tagDirectiveHandle
  | tagDirectiveHandleEnd
  | tagDirectiveUri
  | tag
  | tagUri
  | anchor
  | alias
  | blockScalar
  | quotedScalar
  | quotedEscape
  | plainScalar
  | node
  | blockNode
  | flowNode
  | blockCollection
  | blockMapping
  | flowSequence
  | flowMapping
  deriving DecidableEq, Repr

namespace Context

def message : Context → String
  | .simpleKey => "while scanning a simple key"
  | .nextToken => "while scanning for the next token"
  | .directive => "while scanning a directive"
  | .versionDirective => "while scanning a %YAML directive"
  | .tagDirective => "while scanning a %TAG directive"
  | .tagDirectiveHandle => "while scanning a tag directive"
  | .tagDirectiveHandleEnd => "while parsing a tag directive"
  | .tagDirectiveUri => "while parsing a %TAG directive"
  | .tag => "while scanning a tag"
  | .tagUri => "while parsing a tag"
  | .anchor => "while scanning an anchor"
  | .alias => "while scanning an alias"
  | .blockScalar => "while scanning a block scalar"
  | .quotedScalar => "while scanning a quoted scalar"
  | .quotedEscape => "while parsing a quoted scalar"
  | .plainScalar => "while scanning a plain scalar"
  | .node => "while parsing a node"
  | .blockNode => "while parsing a block node"
  | .flowNode => "while parsing a flow node"
  | .blockCollection => "while parsing a block collection"
  | .blockMapping => "while parsing a block mapping"
  | .flowSequence => "while parsing a flow sequence"
  | .flowMapping => "while parsing a flow mapping"

end Context

structure Fault where
  problem : Problem
  mark : Mark
  /-- Bytes before a character that may not occur at all; such a fault has no mark. -/
  offset : Nat
  context : Option (Context × Mark)
  deriving DecidableEq, Repr

namespace Fault

/-- A fault at a place, found while reading nothing in particular. -/
def bare (problem : Problem) (mark : Mark) : Fault := ⟨problem, mark, 0, none⟩

/-- A fault at a place, found while reading something that began at another. -/
def within (context : Context) (start : Mark) (problem : Problem) (mark : Mark) : Fault :=
  ⟨problem, mark, 0, some (context, start)⟩

/-- The problem with its place, then the context with its own if that is another one. -/
def message (f : Fault) : String :=
  let place :=
    if !f.mark.isOrigin then f.mark.describe
    else if f.offset != 0 then " at position " ++ toString f.offset
    else ""
  let context := match f.context with
    | none => ""
    | some (c, m) =>
      ", " ++ c.message ++ (if m.isOrigin || m.samePlace f.mark then "" else m.describe)
  f.problem.message ++ place ++ context

end Fault

end AppConfig.Yaml

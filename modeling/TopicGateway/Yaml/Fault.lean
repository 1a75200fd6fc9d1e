import TopicGateway.Mismatch
import TopicGateway.Yaml.Cursor

/-! Why a text is no usable YAML. A text is malformed at a mark, often while something was being
read that began earlier; or a value in it is not what is expected at its path. -/

namespace TopicGateway.Yaml

inductive Problem where
  | noColon
  | noTokenStart
  | entryNotAllowed
  | keyNotAllowed
  | valueNotAllowed
  | unexpectedColon
  | tabInIndentation
  | indicatorInScalar
  | endInScalar
  | unknownEscape
  | notHexadecimal
  | invalidCharacter
  | zeroIndentation
  | noCommentOrBreak
  | tabForSpace
  | noName
  | noTagClose
  | noWhitespaceOrBreak
  | noWhitespace
  | noExclamation
  | noUri
  | noUriEscape
  | badLeadingOctet
  | badTrailingOctet
  | noDirectiveName
  | notAlphabetic
  | unknownDirective
  | noDigitOrPoint
  | longVersion
  | noVersion
  | noDocumentStart
  | undefinedHandle
  | noNodeContent
  | noEntry
  | noKey
  | noCommaOrBracket
  | noCommaOrBrace
  | duplicateVersion
  | incompatibleVersion
  | duplicateHandle
  deriving DecidableEq

def Problem.text : Problem → String
  | .noColon => "could not find expected ':'"
  | .noTokenStart => "found character that cannot start any token"
  | .entryNotAllowed => "block sequence entries are not allowed in this context"
  | .keyNotAllowed => "mapping keys are not allowed in this context"
  | .valueNotAllowed => "mapping values are not allowed in this context"
  | .unexpectedColon => "found unexpected ':'"
  | .tabInIndentation => "found a tab character that violates indentation"
  | .indicatorInScalar => "found unexpected document indicator"
  | .endInScalar => "found unexpected end of stream"
  | .unknownEscape => "found unknown escape character"
  | .notHexadecimal => "did not find expected hexdecimal number"
  | .invalidCharacter => "found invalid Unicode character escape code"
  | .zeroIndentation => "found an indentation indicator equal to 0"
  | .noCommentOrBreak => "did not find expected comment or line break"
  | .tabForSpace => "found a tab character where an indentation space is expected"
  | .noName => "did not find expected alphabetic or numeric character"
  | .noTagClose => "did not find the expected '>'"
  | .noWhitespaceOrBreak => "did not find expected whitespace or line break"
  | .noWhitespace => "did not find expected whitespace"
  | .noExclamation => "did not find expected '!'"
  | .noUri => "did not find expected tag URI"
  | .noUriEscape => "did not find URI escaped octet"
  | .badLeadingOctet => "found an incorrect leading UTF-8 octet"
  | .badTrailingOctet => "found an incorrect trailing UTF-8 octet"
  | .noDirectiveName => "could not find expected directive name"
  | .notAlphabetic => "found unexpected non-alphabetical character"
  | .unknownDirective => "found unknown directive name"
  | .noDigitOrPoint => "did not find expected digit or '.' character"
  | .longVersion => "found extremely long version number"
  | .noVersion => "did not find expected version number"
  | .noDocumentStart => "did not find expected <document start>"
  | .undefinedHandle => "found undefined tag handle"
  | .noNodeContent => "did not find expected node content"
  | .noEntry => "did not find expected '-' indicator"
  | .noKey => "did not find expected key"
  | .noCommaOrBracket => "did not find expected ',' or ']'"
  | .noCommaOrBrace => "did not find expected ',' or '\x7d'"
  | .duplicateVersion => "found duplicate %YAML directive"
  | .incompatibleVersion => "found incompatible YAML document"
  | .duplicateHandle => "found duplicate %TAG directive"

inductive Activity where
  | simpleKey
  | token
  | plainScalar
  | quotedScalar
  | escape
  | blockScalar
  | anchor
  | reference
  | tag
  | tagUri
  | directive
  | versionDirective
  | tagDirective
  | tagDirectiveUri
  | handle
  | handleEnd
  | node
  | blockNode
  | flowNode
  | blockSequence
  | blockMapping
  | flowSequence
  | flowMapping
  deriving DecidableEq

def Activity.text : Activity → String
  | .simpleKey => "while scanning a simple key"
  | .token => "while scanning for the next token"
  | .plainScalar => "while scanning a plain scalar"
  | .quotedScalar => "while scanning a quoted scalar"
  | .escape => "while parsing a quoted scalar"
  | .blockScalar => "while scanning a block scalar"
  | .anchor => "while scanning an anchor"
  | .reference => "while scanning an alias"
  | .tag => "while scanning a tag"
  | .tagUri => "while parsing a tag"
  | .directive => "while scanning a directive"
  | .versionDirective => "while scanning a %YAML directive"
  | .tagDirective => "while scanning a %TAG directive"
  | .tagDirectiveUri => "while parsing a %TAG directive"
  | .handle => "while scanning a tag directive"
  | .handleEnd => "while parsing a tag directive"
  | .node => "while parsing a node"
  | .blockNode => "while parsing a block node"
  | .flowNode => "while parsing a flow node"
  | .blockSequence => "while parsing a block collection"
  | .blockMapping => "while parsing a block mapping"
  | .flowSequence => "while parsing a flow sequence"
  | .flowMapping => "while parsing a flow mapping"

inductive Step where
  | key (name : String)
  | index (n : Nat)
  /-- The value of a key that is no scalar. -/
  | unnamed
  deriving DecidableEq

/-- The way to a value from the root, the last step first. -/
abbrev Path := List Step

namespace Path

def member (parent : String) (steps : Path) (name : String) : String :=
  if steps.isEmpty then name else parent ++ "." ++ name

def text : Path → String
  | [] => "."
  | .key name :: parent => member (text parent) parent name
  | .unnamed :: parent => member (text parent) parent "?"
  | .index n :: parent => text parent ++ "[" ++ toString n ++ "]"

/-- In front of a message; the root is not told. -/
def lead (p : Path) : String :=
  if p.isEmpty then "" else p.text ++ ": "

end Path

inductive Fault where
  /-- A character that must not stand in a text, behind so many bytes. -/
  | control (offset : Nat)
  | malformed (problem : Problem) (mark : Mark) (during : Option (Activity × Mark))
  | unknownAnchor (mark : Mark)
  | mismatch (path : Path) (what : Mismatch) (mark : Mark)
  | endOfEvents
  | severalDocuments
  deriving DecidableEq

namespace Fault

/-- A value that is missing is `unit value`; numbers are written with plain digits. -/
def wording : Wording := ⟨"unit value", Binary64.plainText⟩

/-- The activity with its place, unless that is the place of the problem itself. -/
def duringText (mark : Mark) : Option (Activity × Mark) → String
  | none => ""
  | some (activity, start) =>
    ", " ++ activity.text ++ (if start.samePlace mark then "" else start.place)

def message : Fault → String
  | .control 0 => "control characters are not allowed"
  | .control offset => "control characters are not allowed at position " ++ toString offset
  | .malformed problem mark during => problem.text ++ mark.place ++ duringText mark during
  | .unknownAnchor mark => "unknown anchor" ++ mark.place
  | .mismatch path what mark => path.lead ++ what.message wording ++ mark.place
  | .endOfEvents => "EOF while parsing a value"
  | .severalDocuments =>
    "deserializing from YAML containing more than one document is not supported"

end Fault

end TopicGateway.Yaml

/-
  What can be wrong with the grammar of a YAML text, and where.

  A fault names its cause and its place, and usually also what was being read and where that began.
  Places are counted from zero and told from one.  The very start of a text is not worth telling,
  and neither is the beginning of what was being read when it is the place of the fault itself.
-/

namespace SampleSchema
namespace Yaml

/-- A place in a text: the lines passed, and the characters passed on the line. -/
structure Mark where
  line : Nat
  column : Nat
  deriving DecidableEq, Repr

namespace Mark

/-- Before the first character. -/
def start : Mark := ⟨0, 0⟩

/-- The next line. -/
def newline (m : Mark) : Mark := ⟨m.line + 1, 0⟩

/-- One column further. -/
def right (m : Mark) : Mark := ⟨m.line, m.column + 1⟩

/-- ` at line L column C`, and nothing for the start of the text. -/
def told (m : Mark) : String :=
  if m = start then ""
  else " at line " ++ toString (m.line + 1) ++ " column " ++ toString (m.column + 1)

end Mark

/-- What is wrong with the grammar of a text. -/
inductive Cause where
  | strangeCharacter
  | colonMissing
  | itemNotAllowed
  | keyNotAllowed
  | valueNotAllowed
  | directiveNameMissing
  | directiveNameBroken
  | directiveUnknown
  | lineEndMissing
  | versionBroken
  | versionTooLong
  | versionMissing
  | blankMissing
  | blankOrBreakMissing
  | nameMissing
  | angleMissing
  | exclamationMissing
  | tagMissing
  | octetMissing
  | octetNotLeading
  | octetNotTrailing
  | indentationZero
  | tabInIndentation
  | boundaryInQuotes
  | endInQuotes
  | escapeUnknown
  | hexadecimalMissing
  | notACharacter
  | colonInWord
  | tabInWord
  | documentStartMissing
  | nodeMissing
  | dashMissing
  | keyMissing
  | commaOrBracketMissing
  | commaOrBraceMissing
  | handleUnknown
  | versionRepeated
  | versionUnsupported
  | handleRepeated
  deriving DecidableEq, Repr

def Cause.message : Cause → String
  | strangeCharacter => "found character that cannot start any token"
  | colonMissing => "could not find expected ':'"
  | itemNotAllowed => "block sequence entries are not allowed in this context"
  | keyNotAllowed => "mapping keys are not allowed in this context"
  | valueNotAllowed => "mapping values are not allowed in this context"
  | directiveNameMissing => "could not find expected directive name"
  | directiveNameBroken => "found unexpected non-alphabetical character"
  | directiveUnknown => "found unknown directive name"
  | lineEndMissing => "did not find expected comment or line break"
  | versionBroken => "did not find expected digit or '.' character"
  | versionTooLong => "found extremely long version number"
  | versionMissing => "did not find expected version number"
  | blankMissing => "did not find expected whitespace"
  | blankOrBreakMissing => "did not find expected whitespace or line break"
  | nameMissing => "did not find expected alphabetic or numeric character"
  | angleMissing => "did not find the expected '>'"
  | exclamationMissing => "did not find expected '!'"
  | tagMissing => "did not find expected tag URI"
  | octetMissing => "did not find URI escaped octet"
  | octetNotLeading => "found an incorrect leading UTF-8 octet"
  | octetNotTrailing => "found an incorrect trailing UTF-8 octet"
  | indentationZero => "found an indentation indicator equal to 0"
  | tabInIndentation => "found a tab character where an indentation space is expected"
  | boundaryInQuotes => "found unexpected document indicator"
  | endInQuotes => "found unexpected end of stream"
  | escapeUnknown => "found unknown escape character"
  | hexadecimalMissing => "did not find expected hexdecimal number"
  | notACharacter => "found invalid Unicode character escape code"
  | colonInWord => "found unexpected ':'"
  | tabInWord => "found a tab character that violates indentation"
  | documentStartMissing => "did not find expected <document start>"
  | nodeMissing => "did not find expected node content"
  | dashMissing => "did not find expected '-' indicator"
  | keyMissing => "did not find expected key"
  | commaOrBracketMissing => "did not find expected ',' or ']'"
  | commaOrBraceMissing => "did not find expected ',' or '\x7d'"
  | handleUnknown => "found undefined tag handle"
  | versionRepeated => "found duplicate %YAML directive"
  | versionUnsupported => "found incompatible YAML document"
  | handleRepeated => "found duplicate %TAG directive"

/-- What was being read when a fault arose. -/
inductive Activity where
  | nextToken
  | simpleKey
  | directive
  | versionDirective
  | tagDirective
  | tagDirectiveMark
  | tagDirectiveHandle
  | tagDirectiveText
  | anchor
  | alias
  | tag
  | tagText
  | blockScalar
  | quotedScalar
  | escape
  | plainScalar
  | node
  | blockNode
  | flowNode
  | blockSequence
  | blockMapping
  | flowSequence
  | flowMapping
  deriving DecidableEq, Repr

def Activity.message : Activity → String
  | nextToken => "while scanning for the next token"
  | simpleKey => "while scanning a simple key"
  | directive => "while scanning a directive"
  | versionDirective => "while scanning a %YAML directive"
  | tagDirective => "while scanning a %TAG directive"
  | tagDirectiveMark => "while scanning a tag directive"
  | tagDirectiveHandle => "while parsing a tag directive"
  | tagDirectiveText => "while parsing a %TAG directive"
  | anchor => "while scanning an anchor"
  | .alias => "while scanning an alias"
  | tag => "while scanning a tag"
  | tagText => "while parsing a tag"
  | blockScalar => "while scanning a block scalar"
  | quotedScalar => "while scanning a quoted scalar"
  | escape => "while parsing a quoted scalar"
  | plainScalar => "while scanning a plain scalar"
  | node => "while parsing a node"
  | blockNode => "while parsing a block node"
  | flowNode => "while parsing a flow node"
  | blockSequence => "while parsing a block collection"
  | blockMapping => "while parsing a block mapping"
  | flowSequence => "while parsing a flow sequence"
  | flowMapping => "while parsing a flow mapping"

/-- A cause, its place, and what was being read since which place. -/
structure Fault where
  cause : Cause
  mark : Mark
  during : Option (Activity × Mark) := none
  deriving DecidableEq, Repr

/-- A fault in words. -/
def Fault.describe (f : Fault) : String :=
  f.cause.message ++ f.mark.told ++ match f.during with
    | none => ""
    | some (activity, since) =>
      ", " ++ activity.message ++ (if since = f.mark then "" else since.told)

/-- Fail at a place while something was being read. -/
def fail {α : Type} (cause : Cause) (mark : Mark) (activity : Activity) (since : Mark) :
    Except Fault α :=
  .error ⟨cause, mark, some (activity, since)⟩

end Yaml
end SampleSchema

/-
  What can be wrong with a JSON text, and where.

  A fault names its cause and the text that was unread when it arose, together with the number of
  bytes by which its place lies beyond that point: a reader that has looked at the next byte without
  taking it reports the place after that byte.  Only when the fault is told is the place turned into
  a line and a column of the whole text.

  Beside the faults of grammar there are those of meaning (`Mismatch`): the text is JSON as far as
  it was read, but it is not what the reader of a document wants at that point.
-/
import SampleSchema.Json.Basic
import SampleSchema.Text.Position
import SampleSchema.Text.Quoted

namespace SampleSchema
namespace Json

/-- What stood where something else was expected. -/
inductive Found where
  | null
  | bool (b : Bool)
  | number (n : Number)
  | string (s : String)
  | sequence
  | map
  deriving DecidableEq, Repr

/-- The words for what was found. -/
def Found.describe : Found → String
  | null => "null"
  | bool b => "boolean `" ++ (if b then "true" else "false") ++ "`"
  | number (.whole n) => "integer `" ++ toString n ++ "`"
  | number (.double x) => "floating point `" ++ x.text ++ "`"
  | string s => "string " ++ quoted s
  | sequence => "sequence"
  | map => "map"

/-- JSON that is not what the document should hold. -/
inductive Mismatch where
  /-- A name that is none of the known ones. -/
  | unknownName (name : String) (known : List String)
  /-- A value of the wrong type. -/
  | wrongType (found : Found) (expected : String)
  /-- A value of the right type that cannot be used. -/
  | wrongValue (found : Found) (expected : String)
  /-- A field that occurs twice. -/
  | repeatedField (name : String)
  deriving DecidableEq, Repr

def Mismatch.message : Mismatch → String
  | unknownName name known =>
    "unknown variant " ++ ticked name ++ ", expected " ++ alternatives known
  | wrongType found expected => "invalid type: " ++ found.describe ++ ", expected " ++ expected
  | wrongValue found expected => "invalid value: " ++ found.describe ++ ", expected " ++ expected
  | repeatedField name => "duplicate field " ++ ticked name

/-- What is wrong with a text. -/
inductive Cause where
  | endInList
  | endInObject
  | endInString
  | endInValue
  | colonMissing
  | listContinuation
  | objectContinuation
  | wordExpected
  | valueExpected
  | badEscape
  | badNumber
  | numberTooLarge
  | trailingSurrogateAlone
  | leadingSurrogateAlone
  | controlCharacter
  | keyNotString
  | commaAtEnd
  | trailingCharacters
  | tooDeep
  | mismatch (m : Mismatch)
  deriving DecidableEq, Repr

def Cause.message : Cause → String
  | endInList => "EOF while parsing a list"
  | endInObject => "EOF while parsing an object"
  | endInString => "EOF while parsing a string"
  | endInValue => "EOF while parsing a value"
  | colonMissing => "expected `:`"
  | listContinuation => "expected `,` or `]`"
  | objectContinuation => "expected `,` or `\x7d`"
  | wordExpected => "expected ident"
  | valueExpected => "expected value"
  | badEscape => "invalid escape"
  | badNumber => "invalid number"
  | numberTooLarge => "number out of range"
  | trailingSurrogateAlone => "lone leading surrogate in hex escape"
  | leadingSurrogateAlone => "unexpected end of hex escape"
  | controlCharacter => "control character (\\u0000-\\u001F) found while parsing a string"
  | keyNotString => "key must be a string"
  | commaAtEnd => "trailing comma"
  | trailingCharacters => "trailing characters"
  | tooDeep => "recursion limit exceeded"
  | mismatch m => m.message

/-- A cause and its place: `past` bytes after the point from which `unread` was left. -/
structure Fault where
  cause : Cause
  unread : List Char
  past : Nat := 0

/-- The place of a fault in the whole text. -/
def Fault.position (f : Fault) (text : List Char) : Position :=
  .afterBytes text (byteLength text - byteLength f.unread + f.past)

/-- A fault in words, with its place. -/
def Fault.describe (f : Fault) (text : List Char) : String :=
  f.cause.message ++ " at " ++ (f.position text).describe

/-- Fail before the unread text. -/
def failHere (cause : Cause) (unread : List Char) : Except Fault α := .error ⟨cause, unread, 0⟩

/-- Fail after the next byte of the unread text, which was looked at and not taken. -/
def failNext (cause : Cause) (unread : List Char) : Except Fault α := .error ⟨cause, unread, 1⟩

end Json
end SampleSchema

/-
  What scalars mean.

  Without quotes a scalar is nothing at all, a boolean, a whole number, a double, or a text, in this
  order.  Whole numbers are written in decimal or, behind `0x`, `0o` and `0b`, in other bases; they
  are told apart by the number of bits that they need.  Digits behind a leading zero are a text.  A
  tag of the core schema demands its kind of value whatever the style, and a scalar with another tag
  or in another style is a text.
-/
import SampleSchema.Decimal
import SampleSchema.Text.Digits
import SampleSchema.Text.Quoted
import SampleSchema.Yaml.Token

namespace SampleSchema
namespace Yaml

/-- A scalar as a document gives it. -/
structure Scalar where
  tag : Option String
  style : ScalarStyle
  text : String
  deriving DecidableEq, Repr

/-- What stands somewhere in a document. -/
inductive Found where
  | nothing
  | boolean (b : Bool)
  /-- A whole number of 64 bits. -/
  | whole (n : Int)
  /-- A larger whole number of 128 bits, without or with sign. -/
  | wide (n : Int)
  | double (x : Double)
  | infinity (negative : Bool)
  | notANumber
  | text (s : String)
  | sequence
  | mapping
  deriving DecidableEq, Repr

/-- The words for what stands somewhere. -/
def Found.describe : Found → String
  | nothing => "unit value"
  | boolean b => "boolean " ++ ticked (if b then "true" else "false")
  | whole n => "integer " ++ ticked (toString n)
  | wide n => "integer " ++ ticked (toString n) ++ (if 0 ≤ n then " as u128" else " as i128")
  | double x => "floating point " ++ ticked x.longText
  | infinity negative => "floating point " ++ ticked (if negative then "-inf" else "inf")
  | notANumber => "floating point " ++ ticked "NaN"
  | text s => "string " ++ quoted s
  | sequence => "sequence"
  | mapping => "map"

/-- What a document holds is not what should be there. -/
inductive Misfit where
  /-- A key that is none of the known ones. -/
  | unknownKey (key : String) (known : List String)
  /-- A key that occurs twice. -/
  | repeatedKey (key : String)
  /-- A value of another kind. -/
  | wrongType (found : Found) (expected : String)
  /-- A text that is not what its tag demands. -/
  | wrongText (text : String) (expected : String)
  deriving DecidableEq, Repr

def Misfit.message : Misfit → String
  | unknownKey key known => "unknown field " ++ ticked key ++ ", expected " ++ alternatives known
  | repeatedKey key => "duplicate field " ++ ticked key
  | wrongType found expected => "invalid type: " ++ found.describe ++ ", expected " ++ expected
  | wrongText text expected => "invalid value: string " ++ quoted text ++ ", expected " ++ expected

/-! ## Nothing and booleans -/

/-- Is it a spelling of nothing? -/
def isNull (s : String) : Bool := ["null", "Null", "NULL", "~"].contains s

/-- The boolean that a text spells. -/
def boolean? (s : String) : Option Bool :=
  if ["true", "True", "TRUE"].contains s then some true
  else if ["false", "False", "FALSE"].contains s then some false
  else none

/-! ## Whole numbers -/

/-- The base that a letter behind a zero stands for. -/
def base? (c : Char) : Option Nat :=
  if c = 'x' then some 16 else if c = 'o' then some 8 else if c = 'b' then some 2 else none

/-- Is it a zero with more digits behind it, a sign apart? -/
def isPadded (cs : List Char) : Bool :=
  match (match cs with
    | '+' :: r => r
    | '-' :: r => r
    | r => r) with
  | '0' :: c :: r => (c :: r).all Char.isDigit
  | _ => false

/-- The number that a text without sign spells. -/
def unsignedValue? (cs : List Char) : Option Nat :=
  match cs with
  | '0' :: c :: r => match base? c with
    | some base => natOf? base r
    | none => if isPadded cs then none else natOf? 10 cs
  | _ => natOf? 10 cs

/-- The number that a text spells, which may have a plus sign. -/
def natural? (s : String) : Option Nat :=
  match s.toList with
  | '+' :: cs => unsignedValue? cs
  | cs => unsignedValue? cs

/-- The number that a text behind a minus sign spells. -/
def negative? (s : String) : Option Int :=
  match s.toList with
  | '-' :: cs => (unsignedValue? cs).map fun n => -(n : Int)
  | _ => none

/-- What a whole number is, by the bits that it needs; `none` when 128 are not enough. -/
def wholeFound? (n : Int) : Option Found :=
  if -(Nat.pow 2 63 : Int) ≤ n ∧ n < (Nat.pow 2 64 : Int) then some (.whole n)
  else if -(Nat.pow 2 127 : Int) ≤ n ∧ n < (Nat.pow 2 128 : Int) then some (.wide n)
  else none

/-- The whole number that a text spells, as long as 128 bits are enough. -/
def integer? (s : String) : Option Found :=
  match natural? s with
  | some n => wholeFound? n
  | none => (negative? s).bind wholeFound?

/-! ## Doubles -/

/-- Digits, and the text after them. -/
def spanDigits (cs : List Char) : List Char × List Char := cs.span Char.isDigit

/-- The power of ten at the end of a number, zero where the text is at its end. -/
def exponent? (cs : List Char) : Option Int :=
  match cs with
  | [] => some 0
  | c :: r =>
    if c = 'e' ∨ c = 'E' then
      match r with
      | '-' :: ds => (natOf? 10 ds).map fun n => -(n : Int)
      | '+' :: ds => (natOf? 10 ds).map Int.ofNat
      | ds => (natOf? 10 ds).map Int.ofNat
    else none

/-- The double nearest to a number without sign: digits with or without a point among them, and a
    power of ten. -/
def magnitude? (cs : List Char) : Option Magnitude := do
  let (whole, r) := spanDigits cs
  let (fraction, r) := match r with
    | '.' :: r => spanDigits r
    | r => ([], r)
  let n ← natOf? 10 (whole ++ fraction)
  let e ← exponent? r
  Magnitude.nearestDecimal n (e - fraction.length)

/-- Is it a spelling of infinity? -/
def isInfinity (cs : List Char) : Bool :=
  [".inf", ".Inf", ".INF"].any (·.toList == cs)

/-- The double that a text spells. -/
def double? (s : String) : Option Found :=
  if [".nan", ".NaN", ".NAN"].contains s then some .notANumber
  else
    match s.toList with
    | '+' :: cs =>
      if isInfinity cs then some (.infinity false)
      else (magnitude? cs).map fun m => .double ⟨false, m⟩
    | '-' :: cs =>
      if isInfinity cs then some (.infinity true)
      else (magnitude? cs).map fun m => .double ⟨true, m⟩
    | cs =>
      if isInfinity cs then some (.infinity false)
      else (magnitude? cs).map fun m => .double ⟨false, m⟩

/-! ## Scalars -/

/-- What a text without quotes and tag means. -/
def plainFound (s : String) : Found :=
  if s.isEmpty || isNull s then .nothing
  else
    match boolean? s with
    | some b => .boolean b
    | none =>
      match integer? s with
      | some f => f
      | none => if isPadded s.toList then .text s else (double? s).getD (.text s)

/-- What the tags of the core schema start with. -/
def coreTag (name : String) : String := "tag:yaml.org,2002:" ++ name

namespace Scalar

/-- What a scalar means. -/
def found (s : Scalar) : Except Misfit Found :=
  let demand (value : Option Found) (expected : String) : Except Misfit Found :=
    match value with
    | some f => .ok f
    | none => .error (.wrongText s.text expected)
  match s.tag with
  | none => .ok (if s.style = .plain then plainFound s.text else .text s.text)
  | some tag =>
    if tag = coreTag "bool" then demand ((boolean? s.text).map .boolean) "a boolean"
    else if tag = coreTag "int" then demand (integer? s.text) "an integer"
    else if tag = coreTag "float" then demand (double? s.text) "a float"
    else if tag = coreTag "null" then
      demand (if isNull s.text then some .nothing else none) "null"
    else if tag.startsWith "!" && s.style = .plain then .ok (plainFound s.text)
    else .ok (.text s.text)

/-- Is the scalar written without quotes and lines of its own, or as literal lines with the tag that
    names the wanted kind? -/
def isOpen (s : Scalar) (name : String) : Bool :=
  s.style = .plain || (s.style = .literal && s.tag == some (coreTag name))

end Scalar
end Yaml
end SampleSchema

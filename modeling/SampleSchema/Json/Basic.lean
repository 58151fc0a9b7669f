/-
  JSON values.

  A number is kept as a whole number while it fits into 64 bits, signed or unsigned, and as a finite
  double otherwise.  The entries of an object keep the order in which their keys first appeared.
-/
import SampleSchema.Decimal
import SampleSchema.Keyed

namespace SampleSchema

/-- A JSON number. -/
inductive Number where
  /-- A whole number between `-2 ^ 63` and `2 ^ 64 - 1`. -/
  | whole (n : Int)
  | double (x : Double)
  deriving DecidableEq, Repr

namespace Number

/-- Has the number no fractional part? -/
def isWhole : Number → Bool
  | whole _ => true
  | double x => x.isWhole

/-- The spelling of a number. -/
def text : Number → String
  | whole n => toString n
  | double x => x.text

end Number

/-- A JSON value. -/
inductive Json where
  | null
  | bool (b : Bool)
  | number (n : Number)
  | string (s : String)
  | array (items : List Json)
  | object (entries : List (String × Json))

end SampleSchema

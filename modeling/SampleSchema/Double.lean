/-
  Finite doubles, computed exactly.

  A double is a sign, a mantissa and a power of two: `± mantissa · 2 ^ exponent`.  All arithmetic is
  done on natural numbers, so that what a number text means can be reasoned about: `nearest` rounds
  a positive fraction to the double closest to it, a tie going to the even mantissa, and multiplying
  or dividing two doubles is rounding one exact fraction.  A result too large for a double is
  `none`; neither an infinity nor a not-a-number is ever built.

  Layout of the range: mantissas stay below `2 ^ 53`, exponents between `-1074` and `971`.  A
  magnitude whose exponent is above `-1074` has a mantissa of at least `2 ^ 52`; below that the
  exponent rests at `-1074` and the mantissa shrinks down to zero.
-/

namespace SampleSchema

/-- A non-negative double: `mantissa · 2 ^ exponent`. -/
structure Magnitude where
  mantissa : Nat
  exponent : Int
  deriving DecidableEq, Repr

/-- A finite double with its sign; zero has both signs. -/
structure Double where
  negative : Bool
  magnitude : Magnitude
  deriving DecidableEq, Repr

namespace Magnitude

def zero : Magnitude := ⟨0, -1074⟩

/-- `n / d` rounded to a whole number, a tie to the even one. -/
def roundHalfEven (n d : Nat) : Nat :=
  let q := n / d
  let r := n % d
  if 2 * r < d then q else if d < 2 * r then q + 1 else q + q % 2

/-- The `k` with `2 ^ k ≤ n / d < 2 ^ (k + 1)`, for positive `n` and `d`. -/
def binade (n d : Nat) : Int :=
  let guess : Int := (Nat.log2 n : Int) - (Nat.log2 d : Int)
  let reached : Bool :=
    if 0 ≤ guess then decide (d * Nat.pow 2 guess.toNat ≤ n)
    else decide (d ≤ n * Nat.pow 2 (-guess).toNat)
  if reached then guess else guess - 1

/-- `n / (d · 2 ^ e)` rounded to a whole number. -/
def scaled (n d : Nat) (e : Int) : Nat :=
  if 0 ≤ e then roundHalfEven n (d * Nat.pow 2 e.toNat)
  else roundHalfEven (n * Nat.pow 2 (-e).toNat) d

/-- The double nearest to `n / d`; `none` when that lies beyond the largest one. -/
def nearest (n d : Nat) : Option Magnitude :=
  if n = 0 then some zero
  else
    let e := max (binade n d - 52) (-1074)
    let m := scaled n d e
    let r : Magnitude := if m = Nat.pow 2 53 then ⟨Nat.pow 2 52, e + 1⟩ else ⟨m, e⟩
    if 971 < r.exponent then none else some r

/-- The exact value as a fraction. -/
def fraction (x : Magnitude) : Nat × Nat :=
  if 0 ≤ x.exponent then (x.mantissa * Nat.pow 2 x.exponent.toNat, 1)
  else (x.mantissa, Nat.pow 2 (-x.exponent).toNat)

/-- The rounded product. -/
def mul (x y : Magnitude) : Option Magnitude :=
  nearest (x.fraction.1 * y.fraction.1) (x.fraction.2 * y.fraction.2)

/-- The rounded quotient, for a divisor other than zero. -/
def div (x y : Magnitude) : Option Magnitude :=
  nearest (x.fraction.1 * y.fraction.2) (x.fraction.2 * y.fraction.1)

/-- Is the value a whole number? -/
def isWhole (x : Magnitude) : Bool :=
  decide (0 ≤ x.exponent) || decide (x.mantissa % Nat.pow 2 (-x.exponent).toNat = 0)

end Magnitude

namespace Double

/-- Is the value a whole number?  Both zeros are. -/
def isWhole (x : Double) : Bool := x.magnitude.isWhole

end Double

/-! ## Doubles from decimal parts -/

namespace Magnitude

/-- The double nearest to `10 ^ k`, for the powers that a double can hold. -/
def powerOfTen (k : Nat) : Magnitude := (nearest (Nat.pow 10 k) 1).getD zero

/-- The largest power of ten that is a double. -/
def largestPower : Nat := 308

/-- `x / 10 ^ k`, the quotient rounded once; a power beyond the largest one is taken out in several
    rounded divisions. -/
def shrink (x : Magnitude) (k : Nat) : Magnitude :=
  if k ≤ largestPower then (x.div (powerOfTen k)).getD zero
  else if x.mantissa = 0 then x
  else shrink ((x.div (powerOfTen largestPower)).getD zero) (k - largestPower)
termination_by k
decreasing_by simp only [largestPower] at *; omega

/-- `x · 10 ^ k`, the product rounded once; `none` when it is too large for a double. -/
def grow (x : Magnitude) (k : Nat) : Option Magnitude :=
  if k ≤ largestPower then x.mul (powerOfTen k)
  else if x.mantissa = 0 then some x
  else none

/-- The double nearest to a decimal `digits · 10 ^ exponent`; `none` when that lies beyond the
    largest one.  Powers far outside the range are decided without being computed. -/
def nearestDecimal (digits : Nat) (exponent : Int) : Option Magnitude :=
  if digits = 0 then some zero
  else if 400 < exponent then none
  else if exponent < -400 - (Nat.log2 digits : Int) then some zero
  else nearest (digits * Nat.pow 10 exponent.toNat) (Nat.pow 10 (-exponent).toNat)

/-- The double that a decimal `significand · 10 ^ exponent` is read as: the significand is rounded
    first, the scaled value after it.  So the result may be a neighbour of the nearest double. -/
def ofDecimal (significand : Nat) (exponent : Int) : Option Magnitude :=
  (nearest significand 1).bind fun x =>
    if 0 ≤ exponent then x.grow exponent.toNat else some (x.shrink (-exponent).toNat)

end Magnitude

end SampleSchema

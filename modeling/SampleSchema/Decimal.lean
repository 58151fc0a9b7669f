/-
  The shortest decimal that reads back as a given double.

  The reals that round to a double form an interval around it; its ends belong to it exactly when
  the mantissa is even.  On the grid of decimals with one, two, … seventeen digits the two
  neighbours of the value are tried, and the first grid that has a neighbour inside the interval
  wins.  If a grid has a point in the interval at all, one of those two neighbours is such a point,
  so no shorter decimal reads back.  Of two hits on the winning grid the nearer one is taken, and
  the one with the even last digit when both are equally near.

  `Decimal` is what the search returns, digits and a power of ten; the layouts (`plain`,
  `scientific` with a sign in the exponent) are for the writers that need them.
-/
import SampleSchema.Double

namespace SampleSchema

/-- `digits · 10 ^ exponent`. -/
structure Decimal where
  digits : Nat
  exponent : Int
  deriving DecidableEq, Repr

namespace Decimal

/-- A closed or open interval of fractions with a common denominator around a value. -/
structure Window where
  low : Nat
  value : Nat
  high : Nat
  denominator : Nat
  closed : Bool

/-- The reals that round to this double, for a mantissa other than zero. -/
def window (x : Magnitude) : Window :=
  let m := x.mantissa
  -- A power of two above the smallest exponent has its lower neighbour at half the usual distance.
  let nearBelow := decide (m = Nat.pow 2 52) && decide (-1074 < x.exponent)
  let low := if nearBelow then 4 * m - 1 else 4 * m - 2
  let high := 4 * m + 2
  let up := Nat.pow 2 (x.exponent - 2).toNat
  let down := Nat.pow 2 (2 - x.exponent).toNat
  { low := low * up, value := 4 * m * up, high := high * up, denominator := down
    closed := decide (m % 2 = 0) }

/-- Does `digits · 10 ^ exponent` lie in the window? -/
def Window.holds (w : Window) (d : Decimal) : Bool :=
  let up := Nat.pow 10 d.exponent.toNat
  let down := Nat.pow 10 (-d.exponent).toNat
  let v := d.digits * up * w.denominator
  if w.closed then decide (w.low * down ≤ v) && decide (v ≤ w.high * down)
  else decide (w.low * down < v) && decide (v < w.high * down)

/-- The decimals on the grid of multiples of `10 ^ e` next to the value, and whether the lower one
    is nearer (`lt`), the upper one (`gt`), or neither (`eq`). -/
def Window.neighbours (w : Window) (e : Int) : Nat × Nat × Ordering :=
  let n := w.value * Nat.pow 10 (-e).toNat
  let d := w.denominator * Nat.pow 10 e.toNat
  let q := n / d
  (q, q + 1, compare (2 * (n % d)) d)

/-- The point of the grid of multiples of `10 ^ e` to print, if one reads back. -/
def Window.pick (w : Window) (e : Int) : Option Decimal :=
  let (below, above, side) := w.neighbours e
  let lower : Decimal := ⟨below, e⟩
  let upper : Decimal := ⟨above, e⟩
  match w.holds lower && decide (0 < below), w.holds upper with
  | true, false => some lower
  | false, true => some upper
  | false, false => none
  | true, true =>
    match side with
    | .lt => some lower
    | .gt => some upper
    | .eq => some (if below % 2 = 0 then lower else upper)

/-- How many decimal digits `n` has; zero has none. -/
def digitCount (n : Nat) : Nat := if n = 0 then 0 else Nat.log2 n * 1233 / 4096 +
  (if Nat.pow 10 (Nat.log2 n * 1233 / 4096) ≤ n then 1 else 0)

/-- The `k` with `10 ^ k ≤ value < 10 ^ (k + 1)`, give or take the rounding of the digit count. -/
def Window.decade (w : Window) : Int :=
  if w.denominator ≤ w.value then (digitCount (w.value / w.denominator) : Int) - 1
  else
    -- Below one: scale by a power of ten that is surely large enough, then count.
    let s := digitCount (w.denominator / w.value) + 1
    (digitCount (w.value * Nat.pow 10 s / w.denominator) : Int) - 1 - s

/-- Try the grids from coarse to fine, `fuel` of them at most, the first being multiples of
    `10 ^ e`. -/
def Window.search (w : Window) : Nat → Int → Decimal
  | 0, e => ⟨(w.neighbours e).1, e⟩
  | fuel + 1, e => (w.pick e).getD (w.search fuel (e - 1))

/-- Take trailing zeros of the digits into the exponent. -/
def trimmed (fuel : Nat) (d : Decimal) : Decimal :=
  match fuel with
  | 0 => d
  | fuel + 1 =>
    if d.digits % 10 = 0 ∧ d.digits ≠ 0 then trimmed fuel ⟨d.digits / 10, d.exponent + 1⟩ else d

/-- The shortest decimal that reads back as `x`. -/
def shortest (x : Magnitude) : Decimal :=
  if x.mantissa = 0 then ⟨0, 0⟩
  else
    let w := window x
    trimmed 20 (w.search 18 w.decade)

/-! ## Layouts -/

/-- The digits of `n` as characters. -/
def digitChars (n : Nat) : List Char := Nat.toDigits 10 n

/-- Positional notation, `.0` being added to a whole number. -/
def plain (d : Decimal) : List Char :=
  let ds := digitChars d.digits
  if 0 ≤ d.exponent then ds ++ List.replicate d.exponent.toNat '0' ++ ['.', '0']
  else
    let places := (-d.exponent).toNat
    if places < ds.length then
      ds.take (ds.length - places) ++ ['.'] ++ ds.drop (ds.length - places)
    else ['0', '.'] ++ List.replicate (places - ds.length) '0' ++ ds

/-- The exponent of the first digit. -/
def leading (d : Decimal) : Int := d.exponent + (digitChars d.digits).length - 1

/-- One digit, the others after a point, and the power of ten with its sign. -/
def scientific (d : Decimal) : List Char :=
  let e := d.leading
  let tail := match digitChars d.digits with
    | [] => []
    | [c] => [c]
    | c :: cs => c :: '.' :: cs
  tail ++ ['e', if 0 ≤ e then '+' else '-'] ++ digitChars e.natAbs

end Decimal

namespace Double

/-- Put the sign in front. -/
def signed (x : Double) (cs : List Char) : String :=
  String.ofList (if x.negative then '-' :: cs else cs)

/-- The short spelling: positional from `1e-5` up to, but not including, `1e16`; a power of ten
    beyond.  `0.0` and `-0.0` are positional. -/
def text (x : Double) : String :=
  let d := Decimal.shortest x.magnitude
  x.signed
    (if x.magnitude.mantissa = 0 then d.plain
     else if -5 ≤ d.leading ∧ d.leading < 16 then d.plain else d.scientific)

/-- The spelling without powers of ten, however long. -/
def longText (x : Double) : String := x.signed (Decimal.shortest x.magnitude).plain

end Double
end SampleSchema

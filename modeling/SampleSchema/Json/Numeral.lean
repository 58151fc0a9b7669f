/-
  Numbers in JSON texts.

  Reading a number has two halves.  `Numeral.scan` splits the text into sign, digits before the
  point, digits after it and exponent, which is a matter of grammar alone.  `Numeral.value` says
  what the parts mean: a whole number where that fits into 64 bits, a double otherwise.  For a
  double the digits are gathered into a significand of 64 bits; from the first digit that would
  overflow it on, digits are dropped, and before the point each dropped digit counts as a factor of
  ten.  A double too large to exist makes the numeral a fault.
-/
import SampleSchema.Json.Reading
import SampleSchema.Text.Digits

namespace SampleSchema
namespace Json

/-- The parts of a number as it is written. -/
structure Numeral where
  negative : Bool
  /-- The digits before the point. -/
  whole : List Char
  /-- The digits after the point; empty where there is no point. -/
  fraction : List Char
  /-- The exponent, if there is one: is it negative, and its digits. -/
  exponent : Option (Bool × List Char)

namespace Numeral

/-- Is the letter the mark of an exponent? -/
def isMark (c : Char) : Bool := c = 'e' || c = 'E'

/-- The sign of an exponent and the text after it. -/
def exponentSign : List Char → Bool × List Char
  | '+' :: cs => (false, cs)
  | '-' :: cs => (true, cs)
  | cs => (false, cs)

theorem length_exponentSign_le (cs : List Char) : (exponentSign cs).2.length ≤ cs.length := by
  unfold exponentSign; split <;> simp

theorem length_dropWhile_le (p : Char → Bool) (cs : List Char) :
    (cs.dropWhile p).length ≤ cs.length := (List.dropWhile_sublist p).length_le

/-- A mark, a sign and digits are left out. -/
theorem length_exponentDigits_le (c : Char) (cs : List Char) :
    ((exponentSign cs).2.dropWhile Char.isDigit).length ≤ (c :: cs).length :=
  Nat.le_succ_of_le (Nat.le_trans (length_dropWhile_le _ _) (length_exponentSign_le cs))

/-- The exponent, if the text starts with one. -/
def scanExponent (cs : List Char) : Except Fault (Tail (Option (Bool × List Char)) cs) :=
  match cs with
  | [] => .ok (.start none [])
  | c :: r =>
    if isMark c then
      let sign := exponentSign r
      match sign.2 with
      | [] => failHere .endInValue []
      | d :: _ =>
        if d.isDigit then
          .ok ⟨some (sign.1, sign.2.takeWhile Char.isDigit), sign.2.dropWhile Char.isDigit,
            length_exponentDigits_le c r⟩
        else failNext .badNumber sign.2
    else .ok (.start none (c :: r))

theorem length_fractionDigits_le (d : Char) (cs : List Char) :
    (cs.dropWhile Char.isDigit).length ≤ ('.' :: d :: cs).length :=
  Nat.le_succ_of_le (Nat.le_succ_of_le (length_dropWhile_le _ cs))

/-- The digits after the point, if the text starts with a point. -/
def scanFraction (cs : List Char) : Except Fault (Tail (List Char) cs) :=
  match cs with
  | ['.'] => failHere .endInValue []
  | '.' :: d :: r =>
    if d.isDigit then
      .ok ⟨d :: r.takeWhile Char.isDigit, r.dropWhile Char.isDigit, length_fractionDigits_le d r⟩
    else failNext .badNumber (d :: r)
  | cs => .ok (.start [] cs)

theorem length_wholeDigits_lt (d : Char) (cs : List Char) :
    (cs.dropWhile Char.isDigit).length < (d :: cs).length :=
  Nat.lt_succ_of_le (length_dropWhile_le _ cs)

/-- The digits before the point: a single zero, or digits that do not start with one. -/
def scanWhole : Reader (List Char) := fun cs =>
  match cs with
  | [] => failHere .endInValue []
  | c :: r =>
    if c = '0' then
      if (r.head?.map Char.isDigit).getD false then failNext .badNumber r
      else .ok (.one ['0'] c r)
    else if c.isDigit then
      .ok ⟨c :: r.takeWhile Char.isDigit, r.dropWhile Char.isDigit, length_wholeDigits_lt c r⟩
    else failNext .badNumber cs

/-- The parts of the number at the start of the text, its sign having been taken. -/
def scan (negative : Bool) : Reader Numeral := fun cs => do
  let w ← scanWhole cs
  let f ← scanFraction w.rest
  let e ← scanExponent f.rest
  .ok ⟨⟨negative, w.value, f.value, e.value⟩, e.rest,
    Nat.lt_of_le_of_lt e.notLonger (Nat.lt_of_le_of_lt f.notLonger w.shorter)⟩

/-! ## What a numeral means -/

/-- Add digits to a significand until one would overflow 64 bits; the significand, and how many
    digits were left out. -/
def gather (significand : Nat) : List Char → Nat × Nat
  | [] => (significand, 0)
  | d :: ds =>
    let next := 10 * significand + digitValue d
    if next < Nat.pow 2 64 then gather next ds else (significand, (d :: ds).length)

/-- The significand of 64 bits and the power of ten that a numeral is read as. -/
def scientificParts (n : Numeral) : Nat × Int :=
  let (s, dropped) := gather 0 n.whole
  let (t, unused) := gather s n.fraction
  let shift : Int := match n.exponent with
    | none => 0
    | some (negative, ds) => if negative then -(decimalValue ds : Int) else decimalValue ds
  (t, (dropped : Int) - ((n.fraction.length : Int) - unused) + shift)

/-- The whole number, for a numeral without point and exponent that fits into 64 bits. -/
def whole? (n : Numeral) : Option Int :=
  if n.fraction.isEmpty && n.exponent.isNone then
    let m := decimalValue n.whole
    if n.negative then
      if 0 < m ∧ m ≤ Nat.pow 2 63 then some (-(m : Int)) else none
    else if m < Nat.pow 2 64 then some m else none
  else none

/-- The number that a numeral stands for; `none` when it is too large. -/
def value (n : Numeral) : Option Number :=
  match n.whole? with
  | some m => some (.whole m)
  | none =>
    let (s, e) := n.scientificParts
    (Magnitude.ofDecimal s e).map fun m => .double ⟨n.negative, m⟩

/-- The digits of an exponent after the first one that takes it beyond 31 bits. -/
def beyondLimit (e : Nat) : List Char → Option (List Char)
  | [] => none
  | d :: ds =>
    let next := 10 * e + digitValue d
    if next < Nat.pow 2 31 then beyondLimit next ds else some ds

/-- Where a numeral that is too large is reported: at the digit of the exponent that takes it beyond
    31 bits, or else at its end. -/
def faultPlace (n : Numeral) (rest : List Char) : List Char :=
  match n.exponent with
  | none => rest
  | some (_, ds) => match beyondLimit 0 ds with
    | none => rest
    | some unread => unread ++ rest

/-- The number at the start of the text, its sign having been taken. -/
def read (negative : Bool) : Reader Number := fun cs => do
  let r ← scan negative cs
  match r.value.value with
  | some v => .ok (r.map fun _ => v)
  | none => failHere .numberTooLarge (r.value.faultPlace r.rest)

end Numeral
end Json
end SampleSchema

/-
  Addresses as hosts.

  A name whose last label is a number is meant as an address of four bytes.  It has at most four
  parts, each decimal, octal (after a zero) or hexadecimal (after `0x`); the last part fills the
  bytes that are left.  An address between brackets has eight groups of up to four hexadecimal
  digits, of which one run may be left out, and its last two groups may be written as four decimal
  bytes.
-/
import SampleSchema.Text.CharSet

namespace SampleSchema
namespace Address

/-! ## Four bytes -/

/-- How a part is written: its digits and their base. -/
def partDigits (cs : List Char) : Nat × List Char :=
  match cs with
  | '0' :: 'x' :: ds | '0' :: 'X' :: ds => (16, ds)
  | '0' :: d :: ds => (8, d :: ds)
  | ds => (10, ds)

/-- The number that a part spells; a mark of a base without digits is zero. -/
def part? (cs : List Char) : Option Nat :=
  if cs.isEmpty then none
  else
    let (base, ds) := partDigits cs
    digitsValue? base 0 ds

/-- The parts without an empty one at the end. -/
def parts (labels : List (List Char)) : List (List Char) :=
  if labels.getLast? = some [] then labels.dropLast else labels

/-- Is the last label that is not empty a number, which makes the name an address? -/
def endsInNumber (labels : List (List Char)) : Bool :=
  match (parts labels).getLast? with
  | none => false
  | some l => (!l.isEmpty && l.all Char.isDigit) || (part? l).isSome

/-- Is the name an address of four bytes? -/
def isFourBytes (labels : List (List Char)) : Bool :=
  match (parts labels).mapM part? with
  | none => false
  | some ns =>
    match ns.getLast? with
    | none => false
    | some last =>
      decide (ns.length ≤ 4) && ns.dropLast.all (· ≤ 255)
      && decide (last < Nat.pow 256 (5 - ns.length))

/-! ## Eight groups -/

/-- A decimal byte without needless zeros. -/
def isByte (cs : List Char) : Bool :=
  !cs.isEmpty && cs.all Char.isDigit && decide (cs.length ≤ 3)
  && (cs.length = 1 || cs.head? ≠ some '0')
  && decide (decimalValue cs ≤ 255)

/-- Four decimal bytes with points between them. -/
def isByteQuad (cs : List Char) : Bool :=
  let bs := splitAtChar '.' cs
  decide (bs.length = 4) && bs.all isByte

def isHexDigit (c : Char) : Bool := (hexValue? c).isSome

/-- The text behind the digits of a group and what separates it from the next. -/
theorem length_groupRest_lt {c d : Char} {r rest : List Char}
    (h : (c :: r).drop (((c :: r).take 4).takeWhile isHexDigit).length = d :: rest) :
    rest.length < r.length + 1 := by
  have hlength := congrArg List.length h
  rw [List.length_drop, List.length_cons, List.length_cons] at hlength
  omega

/-- The rest of an address after `n` groups, a run that was left out counting as one; `skipped`
    tells whether there was such a run. -/
def groups (n : Nat) (skipped : Bool) (cs : List Char) : Bool :=
  match cs with
  | [] => skipped || decide (n = 8)
  | c :: r =>
    if 8 ≤ n then false
    else if c = ':' then !skipped && groups (n + 1) true r
    else
      let digits := ((c :: r).take 4).takeWhile isHexDigit
      match h : (c :: r).drop digits.length with
      | [] => skipped || decide (n + 1 = 8)
      | d :: rest =>
        have : rest.length < r.length + 1 := length_groupRest_lt h
        if d = '.' then
          !digits.isEmpty && decide (n ≤ 6) && isByteQuad (c :: r)
          && (skipped || decide (n + 2 = 8))
        else d = ':' && !rest.isEmpty && groups (n + 1) skipped rest
termination_by cs.length

/-- Is the text an address of eight groups? -/
def isEightGroups (cs : List Char) : Bool :=
  match cs with
  | [] | [_] => false
  | ':' :: ':' :: rest => groups 1 true rest
  | ':' :: _ => false
  | cs => groups 0 false cs

end Address
end SampleSchema

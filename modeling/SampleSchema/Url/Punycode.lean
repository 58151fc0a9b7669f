/-
  Labels of host names in their ASCII form.

  A label with characters beyond ASCII is carried as its ASCII characters, a hyphen, and digits in
  base 36 that say where the other characters are to be inserted.  Each insertion is a difference:
  how far to move on from the last one, counted through all places of the label and from one
  character to the next, starting with the first beyond ASCII.  Differences are written with digits
  whose weights follow a threshold, which adapts to the size of the differences seen so far.

  All counts have to stay below `2 ^ 32`, and what is inserted has to be a character.
-/

namespace SampleSchema
namespace Punycode

/-- Counts beyond this do not occur. -/
def limit : Nat := Nat.pow 2 32

/-- The value of a digit; letters come before figures, and their case does not count. -/
def digit? (c : Char) : Option Nat :=
  if 'a' ≤ c ∧ c ≤ 'z' then some (c.toNat - 'a'.toNat)
  else if 'A' ≤ c ∧ c ≤ 'Z' then some (c.toNat - 'A'.toNat)
  else if '0' ≤ c ∧ c ≤ '9' then some (c.toNat - '0'.toNat + 26)
  else none

/-- The digits below this end a difference, at the place with number `k` (counted in steps of
    36). -/
def threshold (k bias : Nat) : Nat :=
  if k ≤ bias then 1 else if bias + 26 ≤ k then 26 else k - bias

/-- Divide by 35 until at most 455 is left; what is left, and 36 for each division. -/
def settle (delta k : Nat) : Nat × Nat :=
  if 455 < delta then settle (delta / 35) (k + 36) else (delta, k)
termination_by delta

/-- The bias after a difference; the first one counts less, and the length takes part. -/
def adapt (delta length : Nat) (first : Bool) : Nat :=
  let d := if first then delta / 700 else delta / 2
  let (d, k) := settle (d + d / length) 0
  k + 36 * d / (d + 38)

/-- Read one difference and add it to `i`; the sum and the rest of the digits. -/
def readDelta (bias : Nat) : (i weight k : Nat) → List Char → Option (Nat × List Char)
  | _, _, _, [] => none
  | i, weight, k, c :: cs =>
    (digit? c).bind fun d =>
      let next := i + d * weight
      if limit ≤ next then none
      else
        let t := threshold k bias
        if d < t then some (next, cs)
        else if limit ≤ weight * (36 - t) then none
        else readDelta bias next (weight * (36 - t)) (k + 36) cs

theorem length_readDelta_lt {bias i weight k : Nat} {cs rest : List Char} {n : Nat}
    (h : readDelta bias i weight k cs = some (n, rest)) : rest.length < cs.length := by
  induction cs generalizing i weight k with
  | nil => simp [readDelta] at h
  | cons c cs ih =>
    simp only [readDelta, Option.bind_eq_some_iff] at h
    obtain ⟨d, _, h⟩ := h
    split at h
    · cases h
    · split at h
      · cases h; simp
      · split at h
        · cases h
        · have := ih h
          simp only [List.length_cons]; omega

/-- Insert a character at an index. -/
def insertAt (index : Nat) (c : Char) (cs : List Char) : List Char :=
  cs.take index ++ c :: cs.drop index

/-- Carry out the insertions that the digits describe.  `point` is the character to insert next and
    `i` the place reached. -/
def insertions (label : List Char) (point i bias : Nat) (cs : List Char) : Option (List Char) :=
  if cs.isEmpty then some label
  else
    match h : readDelta bias i 1 36 cs with
    | none => none
    | some (n, rest) =>
      have : rest.length < cs.length := length_readDelta_lt h
      let places := label.length + 1
      let point' := point + n / places
      let c := Char.ofNat point'
      if c.toNat = point' then
        insertions (insertAt (n % places) c label) point' (n % places + 1)
          (adapt (n - i) places (i = 0)) rest
      else none
termination_by cs.length

/-- Split at the last hyphen: what is before it, and what is after it.  Without a hyphen, or with
    one at the very start, nothing is before it. -/
def splitBasic (cs : List Char) : List Char × List Char :=
  let tail := cs.reverse.takeWhile (· ≠ '-')
  if tail.length = cs.length then ([], cs)
  else
    let basic := cs.take (cs.length - tail.length - 1)
    if basic.isEmpty then ([], cs) else (basic, tail.reverse)

/-- The label that an ASCII form stands for. -/
def decode (cs : List Char) : Option (List Char) :=
  let (basic, digits) := splitBasic cs
  insertions basic 128 0 72 digits

end Punycode
end SampleSchema

/-
  Composed normal form.

  A text is taken apart into base characters and marks, the marks behind each base are sorted by
  class without disturbing those of one class, and then every mark, or following base, that can join
  the base before it does so unless something stands in between.  Two texts that are canonically
  equivalent have the same normal form.
-/
import SampleSchema.Text.NormalTable

namespace SampleSchema
namespace Normal

/-- The combining class of a character; zero for a base. -/
def classOf (c : Char) : Nat :=
  match combiningClasses.values? c with
  | some [k] => k
  | _ => 0

/-! ## Hangul syllables, which are composed by arithmetic -/

def syllableBase : Nat := 0xAC00
def leadBase : Nat := 0x1100
def vowelBase : Nat := 0x1161
/-- One before the first trailing consonant. -/
def tailBase : Nat := 0x11A7
def vowelCount : Nat := 21
def tailCount : Nat := 28
def syllableCount : Nat := 19 * vowelCount * tailCount

/-- The letters of a syllable. -/
def splitSyllable? (c : Char) : Option (List Char) :=
  let n := c.toNat
  if syllableBase ≤ n ∧ n < syllableBase + syllableCount then
    let i := n - syllableBase
    let lead := Char.ofNat (leadBase + i / (vowelCount * tailCount))
    let vowel := Char.ofNat (vowelBase + i % (vowelCount * tailCount) / tailCount)
    let t := i % tailCount
    some (if t = 0 then [lead, vowel] else [lead, vowel, Char.ofNat (tailBase + t)])
  else none

/-- A syllable from a leading consonant and a vowel, or from an open syllable and a trailing
    consonant. -/
def joinSyllable? (a b : Char) : Option Char :=
  let m := a.toNat
  let n := b.toNat
  if leadBase ≤ m ∧ m < leadBase + 19 ∧ vowelBase ≤ n ∧ n < vowelBase + vowelCount then
    some (Char.ofNat (syllableBase + ((m - leadBase) * vowelCount + (n - vowelBase)) * tailCount))
  else if syllableBase ≤ m ∧ m < syllableBase + syllableCount ∧ (m - syllableBase) % tailCount = 0
      ∧ tailBase < n ∧ n < tailBase + tailCount then
    some (Char.ofNat (m + (n - tailBase)))
  else none

/-! ## Taking apart, sorting, putting together -/

/-- A character in its parts. -/
def parts (c : Char) : List Char :=
  match splitSyllable? c with
  | some cs => cs
  | none => match decompositions.values? c with
    | some ns => ns.map Char.ofNat
    | none => [c]

/-- Put a mark behind those of the same or a lower class that end the reversed text. -/
def placeMark (k : Nat) (c : Char) : List (Char × Nat) → List (Char × Nat)
  | [] => [(c, k)]
  | (d, j) :: rest => if k < j then (d, j) :: placeMark k c rest else (c, k) :: (d, j) :: rest

/-- Sort the marks behind each base.  The text is built in reverse. -/
def sorted (cs : List Char) : List (Char × Nat) :=
  (cs.foldl (fun out c =>
    let k := classOf c
    if k = 0 then (c, k) :: out else placeMark k c out) []).reverse

/-- The second and third of every two numbers after a given one. -/
def lookUpPair (n : Nat) : List Nat → Option Nat
  | m :: r :: rest => if m = n then some r else lookUpPair n rest
  | _ => none

/-- What two characters become together, if they join. -/
def join? (a b : Char) : Option Char :=
  match joinSyllable? a b with
  | some c => some c
  | none => (compositions.values? a).bind fun ns => (lookUpPair b.toNat ns).map Char.ofNat

/-- Join what can be joined.  `base` is the last base, `kept` are the marks behind it that did not
    join, in reverse, and `last` is the class of the latest of them. -/
def joinFrom (base : Char) (kept : List Char) (last : Nat) : List (Char × Nat) → List Char
  | [] => base :: kept.reverse
  | (c, k) :: rest =>
    match if kept.isEmpty || decide (last < k) then join? base c else none with
    | some b => joinFrom b kept last rest
    | none =>
      if k = 0 then base :: kept.reverse ++ joinFrom c [] 0 rest
      else joinFrom base (c :: kept) k rest

/-- Join behind the first base; marks before it stay. -/
def joinAll : List (Char × Nat) → List Char
  | [] => []
  | (c, k) :: rest => if k = 0 then joinFrom c [] 0 rest else c :: joinAll rest

/-- The composed normal form. -/
def compose (cs : List Char) : List Char := joinAll (sorted (cs.flatMap parts))

end Normal
end SampleSchema

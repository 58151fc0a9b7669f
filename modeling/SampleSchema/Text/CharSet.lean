/-
  Sets of characters, as sorted ranges of code points.

  Properties of characters that a standard lists are kept as text: ranges `A-B` and single code
  points `A`, in hexadecimal, sorted and separated by blanks.  `CharSet.ofLines` reads such lines
  once, and membership is a binary search that halves the ranges still in question.
-/
import SampleSchema.Text.Digits

namespace SampleSchema

/-- The number that hexadecimal digits spell; other characters are passed over. -/
def hexNumber (cs : List Char) : Nat :=
  cs.foldl (fun n c => match hexValue? c with
    | some d => 16 * n + d
    | none => n) 0

/-- Cut a list at every `sep`. -/
def splitAtChar (sep : Char) : List Char → List (List Char)
  | [] => [[]]
  | c :: cs =>
    if c = sep then [] :: splitAtChar sep cs
    else match splitAtChar sep cs with
      | [] => [[c]]
      | w :: ws => (c :: w) :: ws

/-- A set of characters: inclusive ranges of code points, sorted and disjoint. -/
structure CharSet where
  ranges : Array (Nat × Nat)

namespace CharSet

/-- One range, from `A-B` or `A`. -/
def rangeOfText (cs : List Char) : Option (Nat × Nat) :=
  match splitAtChar '-' cs with
  | [a] => if a.isEmpty then none else some (hexNumber a, hexNumber a)
  | [a, b] => some (hexNumber a, hexNumber b)
  | _ => none

/-- The set that lines of ranges spell. -/
def ofLines (lines : List String) : CharSet :=
  ⟨(lines.flatMap fun l => (splitAtChar ' ' l.toList).filterMap rangeOfText).toArray⟩

/-- Look for the range that holds `n` among those with an index from `lo` up to, but not including,
    `hi`. -/
def search (rs : Array (Nat × Nat)) (n lo hi : Nat) (h : hi ≤ rs.size) : Bool :=
  if hlt : lo < hi then
    let mid := (lo + hi) / 2
    have hm : mid < hi := by omega
    let r := rs[mid]
    if n < r.1 then search rs n lo mid (by omega)
    else if r.2 < n then search rs n (mid + 1) hi h
    else true
  else false
termination_by hi - lo

/-- Is the code point `n` in the set? -/
def holds (s : CharSet) (n : Nat) : Bool := search s.ranges n 0 s.ranges.size (Nat.le_refl _)

/-- Is the character in the set? -/
def contains (s : CharSet) (c : Char) : Bool := s.holds c.toNat

end CharSet
end SampleSchema

/-
  Maps from characters to sequences of code points, as sorted rows.

  Tables of a standard are kept as text.  A row `A=X.Y` gives the code points for one character, a
  row `A-B=X` speaks of a range, and `A-B/2=X` of every second character of a range; rows are
  sorted, their ranges are disjoint, and all numbers are hexadecimal.  What the code points of a
  range mean for one of its characters is up to the table: its value for all of them, or the start
  of a range of its own (`CodeMap.shifted?`).
-/
import SampleSchema.Text.CharSet

namespace SampleSchema

/-- One row: the characters from `first` to `last`, `step` apart, and what the row says of them. -/
structure CodeRow where
  first : Nat
  last : Nat
  step : Nat
  values : List Nat

/-- Rows with disjoint ranges, sorted. -/
structure CodeMap where
  rows : Array CodeRow

namespace CodeMap

/-- One row from its text. -/
def rowOfText (cs : List Char) : Option CodeRow :=
  match splitAtChar '=' cs with
  | [key, vals] =>
    let values := (splitAtChar '.' vals).map hexNumber
    let (range, step) := match splitAtChar '/' key with
      | [r, s] => (r, hexNumber s)
      | _ => (key, 1)
    (CharSet.rangeOfText range).map fun r => ⟨r.1, r.2, step, values⟩
  | _ => none

/-- The map that lines of rows spell. -/
def ofLines (lines : List String) : CodeMap :=
  ⟨(lines.flatMap fun l => (splitAtChar ' ' l.toList).filterMap rowOfText).toArray⟩

/-- Look for the row whose range holds `n` among those with an index from `lo` up to, but not
    including, `hi`. -/
def search (rows : Array CodeRow) (n lo hi : Nat) (h : hi ≤ rows.size) : Option CodeRow :=
  if hlt : lo < hi then
    let mid := (lo + hi) / 2
    have hm : mid < hi := by omega
    let r := rows[mid]
    if n < r.first then search rows n lo mid (by omega)
    else if r.last < n then search rows n (mid + 1) hi h
    else if (n - r.first) % r.step = 0 then some r
    else none
  else none
termination_by hi - lo

/-- The row that speaks of a character. -/
def row? (m : CodeMap) (c : Char) : Option CodeRow :=
  search m.rows c.toNat 0 m.rows.size (Nat.le_refl _)

/-- The values of the row that speaks of a character. -/
def values? (m : CodeMap) (c : Char) : Option (List Nat) := (m.row? c).map (·.values)

/-- The characters for a character, where a single value is that of the first character of its
    range and the others follow it. -/
def shifted? (m : CodeMap) (c : Char) : Option (List Char) :=
  (m.row? c).map fun r => match r.values with
    | [v] => [Char.ofNat (v + (c.toNat - r.first))]
    | vs => vs.map Char.ofNat

end CodeMap
end SampleSchema

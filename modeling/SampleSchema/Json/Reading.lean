/-
  What readers return.

  A reader takes something from the start of a text.  It returns a value, the text that is left, and
  a proof that the text became shorter, so that loops over readers end without further argument.  A
  reader that may take nothing at all returns a `Tail` instead.
-/
import SampleSchema.Json.Fault

namespace SampleSchema
namespace Json

/-- A value, and the text after it, which is shorter than the text before it. -/
structure Reading (α : Type) (before : List Char) where
  value : α
  rest : List Char
  shorter : rest.length < before.length

namespace Reading

variable {α β : Type}

/-- Change the value. -/
def map (f : α → β) {cs : List Char} (r : Reading α cs) : Reading β cs :=
  ⟨f r.value, r.rest, r.shorter⟩

/-- Take one character. -/
def one (v : α) (c : Char) (cs : List Char) : Reading α (c :: cs) := ⟨v, cs, Nat.lt_succ_self _⟩

/-- Take a character first. -/
def behind {cs : List Char} (c : Char) (r : Reading α cs) : Reading α (c :: cs) :=
  ⟨r.value, r.rest, Nat.lt_succ_of_lt r.shorter⟩

/-- Go on after a reading; the value is the second one. -/
def andThen {cs : List Char} (x : Reading β cs) (r : Reading α x.rest) : Reading α cs :=
  ⟨r.value, r.rest, Nat.lt_trans r.shorter x.shorter⟩

end Reading

/-- A value, and the text after it, which is no longer than the text before it. -/
structure Tail (α : Type) (before : List Char) where
  value : α
  rest : List Char
  notLonger : rest.length ≤ before.length

/-- Take nothing. -/
def Tail.start {α : Type} (v : α) (cs : List Char) : Tail α cs := ⟨v, cs, Nat.le_refl _⟩

/-- A reader of `α`. -/
abbrev Reader (α : Type) := (cs : List Char) → Except Fault (Reading α cs)

/-- Is the character blank between tokens? -/
def isBlank (c : Char) : Bool := c = ' ' || c = '\n' || c = '\t' || c = '\r'

/-- The text from the first character that is not blank. -/
def skipBlanks (cs : List Char) : List Char := cs.dropWhile isBlank

theorem length_skipBlanks_le (cs : List Char) : (skipBlanks cs).length ≤ cs.length :=
  (List.dropWhile_sublist isBlank).length_le

/-- What is left once blanks are skipped is no longer than the text. -/
theorem length_le_of_skipBlanks {cs ds : List Char} (h : skipBlanks cs = ds) :
    ds.length ≤ cs.length := h ▸ length_skipBlanks_le cs

/-- Skip blanks first. -/
def Reading.afterBlanks {α : Type} {cs ds : List Char} (h : skipBlanks cs = ds)
    (r : Reading α ds) : Reading α cs :=
  ⟨r.value, r.rest, Nat.lt_of_lt_of_le r.shorter (length_le_of_skipBlanks h)⟩

end Json
end SampleSchema

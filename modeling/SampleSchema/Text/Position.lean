/-
  Lines and columns.

  A place in a text is counted in bytes of its UTF-8 form: `afterBytes text n` is the line and the
  column that are reached when the first `n` bytes have been passed.  A line feed starts a new line
  at column zero; every other byte moves one column on.  A count beyond the end stops at the end,
  and a count that ends inside a character stops there.
-/

namespace SampleSchema

/-- A line, counted from one, and the bytes passed on it. -/
structure Position where
  line : Nat
  column : Nat
  deriving DecidableEq, Repr

namespace Position

/-- Before the first byte. -/
def start : Position := ⟨1, 0⟩

/-- Move over the first `n` bytes of `cs`. -/
def advance (p : Position) : List Char → Nat → Position
  | [], _ => p
  | c :: cs, n =>
    if n = 0 then p
    else if c = '\n' then advance ⟨p.line + 1, 0⟩ cs (n - 1)
    else if n ≤ c.utf8Size then ⟨p.line, p.column + n⟩
    else advance ⟨p.line, p.column + c.utf8Size⟩ cs (n - c.utf8Size)

/-- The place after the first `n` bytes. -/
def afterBytes (text : List Char) (n : Nat) : Position := start.advance text n

/-- `line L column C`. -/
def describe (p : Position) : String :=
  "line " ++ toString p.line ++ " column " ++ toString p.column

end Position

/-- The length of a text in bytes. -/
def byteLength (cs : List Char) : Nat := cs.foldr (fun c n => c.utf8Size + n) 0

end SampleSchema

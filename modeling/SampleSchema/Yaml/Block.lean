/-
  Block scalars: indented lines behind `|` or `>`.

  The first line may give the indentation and say what happens to the line breaks at the end;
  without an indication the first line that is not empty decides the indentation.  The scalar ends
  before the first line that does not reach it.  A literal scalar keeps its line breaks.  A folded
  one joins lines, except next to lines that start with a blank.
-/
import SampleSchema.Yaml.Gap

namespace SampleSchema
namespace Yaml

/-- What happens to the line breaks at the end. -/
inductive Chomping where
  /-- All are dropped. -/
  | strip
  /-- The first one is kept. -/
  | clip
  /-- All are kept. -/
  | keep
  deriving DecidableEq, Repr

/-- What the first line of a block scalar says. -/
structure BlockHeader where
  chomping : Chomping
  /-- The indentation beyond that of the surroundings, if it is given. -/
  increment : Option Nat

/-- The chomping that a character asks for. -/
def chomping? (c : Char) : Option Chomping :=
  if c = '+' then some .keep else if c = '-' then some .strip else none

/-- Chomping, if the next character asks for one. -/
def readChomping (s : Spot) : Option Chomping × Spot :=
  match s.rest.head?.bind chomping? with
  | some k => (some k, s.next)
  | none => (none, s)

/-- An indentation of one digit, which is not zero, if the next character is a digit. -/
def readIncrement (start : Mark) (s : Spot) : Except Fault (Option Nat × Spot) :=
  match s.rest.head? with
  | none => .ok (none, s)
  | some c =>
    if c = '0' then fail .indentationZero s.mark .blockScalar start
    else if c.isDigit then .ok (some (digitValue c), s.next)
    else .ok (none, s)

/-- The two indications behind `|` or `>`, in either order. -/
def readHeader (start : Mark) (s : Spot) : Except Fault (BlockHeader × Spot) := do
  let (first, s) := readChomping s
  let (increment, s) ← readIncrement start s
  match first, increment with
  | none, some _ =>
    let (last, s) := readChomping s
    return (⟨last.getD .clip, increment⟩, s)
  | _, _ => return (⟨first.getD .clip, increment⟩, s)

/-- How the lines of a block scalar are read. -/
structure Block where
  isLiteral : Bool
  chomping : Chomping
  /-- The first column to the right of the surroundings. -/
  floor : Nat
  start : Mark

/-- What a scan of lines is about to read. -/
inductive InBlock where
  /-- The text of a line. -/
  | line
  /-- Empty lines and the indentation of the next line; blanks were seen up to this column. -/
  | margin (deepest : Nat)

/-- The break behind the last line of text and the breaks of empty lines after it. -/
structure LineEnds where
  first : Option Char := none
  more : List Char := []

namespace Block

/-- What the line ends before a line of text read as, when the line before them or the one after
    them starts with a blank (`isSpaced`) or not. -/
def joint (b : Block) (e : LineEnds) (isSpaced : Bool) : List Char :=
  if !b.isLiteral && e.first == some '\n' && !isSpaced then
    if e.more.isEmpty then [' '] else e.more
  else e.first.toList ++ e.more

/-- What the line ends at the end read as. -/
def tail (b : Block) (e : LineEnds) : List Char :=
  match b.chomping with
  | .strip => []
  | .clip => e.first.toList
  | .keep => e.first.toList ++ e.more

/-- The lines from a place on.  `indent` is the column at which they start, zero while that is not
    known; `wasSpaced` tells whether the last line started with a blank. -/
def readLines (b : Block) (indent : Nat) (wasSpaced : Bool) (e : LineEnds) (state : InBlock)
    (m : Mark) : List Char → Except Fault Run
  | [] => .ok ⟨b.tail e, m, []⟩
  | c :: r =>
    match state with
    | .line =>
      if isBreak c then readLines b indent wasSpaced ⟨some c, []⟩ (.margin 0) (m.after c) r
      else (readLines b indent wasSpaced {} .line (m.after c) r).map (Run.prepend [c])
    | .margin deepest =>
      let isMargin := indent = 0 || decide (m.column < indent)
      let deepest := max deepest m.column
      if isMargin && c = ' ' then readLines b indent wasSpaced e (.margin deepest) (m.after c) r
      else if isMargin && c = '\t' then fail .tabInIndentation m .blockScalar b.start
      else if isBreak c then
        let e := { e with more := e.more ++ [c] }
        readLines b indent wasSpaced e (.margin deepest) (m.after c) r
      else
        let indent := if indent = 0 then max (max deepest b.floor) 1 else indent
        if m.column = indent then
          let isSpaced := isBlank c
          (readLines b indent isSpaced {} .line (m.after c) r).map
            (Run.prepend (b.joint e (wasSpaced || isSpaced) ++ [c]))
        else .ok ⟨b.tail e, m, c :: r⟩

end Block

/-- The block scalar behind `|` or `>`, which is passed already. -/
def readBlock (isLiteral : Bool) (floor : Nat) (start : Mark) (s : Spot) : Except Fault Run := do
  let (header, s) ← readHeader start s
  match s.endLine? with
  | none => fail .lineEndMissing (s.skipBlanks.skipComment).mark .blockScalar start
  | some s =>
    let indent := match header.increment with
      | none => 0
      | some n => floor - 1 + n
    Block.readLines ⟨isLiteral, header.chomping, floor, start⟩ indent false {} (.margin 0)
      s.mark s.rest

end Yaml
end SampleSchema

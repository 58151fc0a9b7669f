/-
  Plain scalars: words without quotes.

  A plain scalar goes on over blanks and line breaks for as long as words follow that belong to it.
  A word does not belong to it when it starts a comment, when it is a marker between documents, or
  when it stands too far left in block context.  The scalar ends at a colon before a gap, and in
  flow context at a comma or a bracket.
-/
import SampleSchema.Yaml.Gap

namespace SampleSchema
namespace Yaml

/-- Where a plain scalar stands. -/
structure PlainContext where
  /-- Does it stand between brackets? -/
  inFlow : Bool
  /-- The column that its further lines have to reach. -/
  floor : Nat
  /-- Where it starts. -/
  start : Mark

/-- A plain scalar: its text, whether lines were passed behind it, and the spot after all that. -/
structure Plain where
  text : List Char
  isBroken : Bool
  after : Spot

/-- Put text in front. -/
def Plain.prepend (cs : List Char) (p : Plain) : Plain := { p with text := cs ++ p.text }

/-- Is the character one that ends words in flow context? -/
def isFlowEnd (c : Char) : Bool := c = ',' || c = '[' || c = ']' || c = '\x7b' || c = '\x7d'

/-- Does the text start with a colon that a gap follows? -/
def startsValue : List Char → Bool
  | ':' :: r => atGap r
  | _ => false

/-- Does the text start with a colon that is an error between brackets? -/
def startsBadColon : List Char → Bool
  | ':' :: c :: _ => isFlowEnd c || c = '?'
  | _ => false

namespace PlainContext

/-- Does the word at a place, which a gap precedes, not belong to the scalar any more? -/
def wordIsOutside (x : PlainContext) (m : Mark) (cs : List Char) : Bool :=
  (!x.inFlow && decide (m.column < x.floor)) || (m.column = 0 && startsBoundary cs) ||
    cs.head? == some '#'

/-- Does the scalar end before this text? -/
def endsBefore (x : PlainContext) (cs : List Char) : Bool :=
  startsValue cs || (x.inFlow && (cs.head?.map isFlowEnd).getD false)

/-- The scalar from a place on, `g` having been passed since its last word. -/
def read (x : PlainContext) (g : Gap) (m : Mark) : List Char → Except Fault Plain
  | [] => .ok ⟨[], g.isBroken, m, []⟩
  | c :: r =>
    if isBlank c then
      if g.isBroken && decide (m.column < x.floor) && c = '\t' then
        fail .tabInWord m .plainScalar x.start
      else read x (g.blank c) (m.after c) r
    else if isBreak c then read x (g.broken c) (m.after c) r
    else if !g.isNone && x.wordIsOutside m (c :: r) then .ok ⟨[], g.isBroken, m, c :: r⟩
    else if x.inFlow && startsBadColon (c :: r) then fail .colonInWord m .plainScalar x.start
    else if x.endsBefore (c :: r) then .ok ⟨[], g.isBroken, m, c :: r⟩
    else (read x .none (m.after c) r).map (Plain.prepend (g.text ++ [c]))

end PlainContext
end Yaml
end SampleSchema

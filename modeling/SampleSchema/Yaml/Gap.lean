/-
  What stands between the words of a scalar.

  Blanks between two words on one line are kept.  A line break between words is folded: it reads as
  a space, or, where more breaks follow, as those without the first.  Blanks around a folded break
  vanish.  A separator of lines or paragraphs is not folded; it is kept with what follows it.
-/
import SampleSchema.Yaml.Source

namespace SampleSchema
namespace Yaml

/-- What has been passed since the last word. -/
inductive Gap where
  /-- Blanks on the line of the last word. -/
  | blanks (cs : List Char)
  /-- A first line break, if it counts, and the ones after it. -/
  | breaks (first : Option Char) (more : List Char)
  deriving DecidableEq, Repr

namespace Gap

/-- Nothing was passed. -/
def none : Gap := blanks []

def isNone (g : Gap) : Bool := g = none

/-- Was a line break passed? -/
def isBroken : Gap → Bool
  | blanks _ => false
  | breaks .. => true

/-- Pass a blank. -/
def blank (g : Gap) (c : Char) : Gap :=
  match g with
  | blanks cs => blanks (cs ++ [c])
  | breaks first more => breaks first more

/-- Pass a line break. -/
def broken (g : Gap) (c : Char) : Gap :=
  match g with
  | blanks _ => breaks (some c) []
  | breaks first more => breaks first (more ++ [c])

/-- What the gap reads as. -/
def text : Gap → List Char
  | blanks cs => cs
  | breaks (some '\n') [] => [' ']
  | breaks (some '\n') more => more
  | breaks first more => first.toList ++ more

end Gap

/-- The text that a scan has read, and the spot after it. -/
structure Run where
  text : List Char
  after : Spot

/-- Put text in front. -/
def Run.prepend (cs : List Char) (r : Run) : Run := ⟨cs ++ r.text, r.after⟩

end Yaml
end SampleSchema

/-
  The parts of YAML documents, in the order in which a text gives them.

  A node is a scalar, an alias, or the start of a collection, which its end follows after the nodes
  inside.  A part carries the place at which it starts.
-/
import SampleSchema.Yaml.Token

namespace SampleSchema
namespace Yaml

/-- What a node may have beside its content; the handle of the tag is replaced already. -/
structure Properties where
  anchor : Option String := none
  tag : Option String := none
  deriving DecidableEq, Repr

/-- What a part is. -/
inductive PartKind where
  | streamEnd
  | documentStart
  | documentEnd
  | alias (name : String)
  | scalar (p : Properties) (style : ScalarStyle) (text : String)
  | sequenceStart (p : Properties)
  | sequenceEnd
  | mappingStart (p : Properties)
  | mappingEnd
  deriving DecidableEq, Repr

/-- A part and the place at which it starts. -/
structure Part where
  kind : PartKind
  mark : Mark
  deriving DecidableEq, Repr

/-- A node that is not there: a plain scalar without text. -/
def Part.absent (mark : Mark) : Part := ⟨.scalar {} .plain "", mark⟩

end Yaml
end SampleSchema

/-
  The tokens of a YAML text.

  A token is an indicator, a scalar, a property of a node, a directive, or the start or end of a
  block, which no character of the text stands for.  It carries the place at which it starts.
-/
import SampleSchema.Yaml.Source

namespace SampleSchema
namespace Yaml

/-- How a scalar was written. -/
inductive ScalarStyle where
  | plain | quoted | literal | folded
  deriving DecidableEq, Repr

/-- A tag as it was written: the handle that is to be replaced, and what follows it.  A tag without
    handle stands for itself. -/
structure TagName where
  handle : String
  text : String
  deriving DecidableEq, Repr

/-- What a token is. -/
inductive TokenKind where
  | streamEnd
  | version (major minor : Nat)
  | tagHandle (handle text : String)
  | documentStart
  | documentEnd
  | blockSequenceStart
  | blockMappingStart
  | blockEnd
  | flowSequenceStart
  | flowSequenceEnd
  | flowMappingStart
  | flowMappingEnd
  | item
  | comma
  | key
  | value
  | alias (name : String)
  | anchor (name : String)
  | tag (name : TagName)
  | scalar (style : ScalarStyle) (text : String)
  deriving DecidableEq, Repr

/-- A token and the place at which it starts. -/
structure Token where
  kind : TokenKind
  mark : Mark
  deriving DecidableEq, Repr

/-- Values in their order, and the fault that comes after them. -/
structure Feed (α : Type) where
  items : List α
  fault : Option Fault
  deriving DecidableEq, Repr

/-- Put a value in front. -/
def Feed.cons {α : Type} (x : α) (f : Feed α) : Feed α := ⟨x :: f.items, f.fault⟩

end Yaml
end SampleSchema

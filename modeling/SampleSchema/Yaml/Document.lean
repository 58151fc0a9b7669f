/-
  The document of a text, as it is read.

  A text should hold one document.  Its nodes are kept in a row, as far as they could be told, with
  the problem that comes after them: what is read of a document is read before that problem counts.
  Aliases are replaced by numbers, and `anchors` says which node a number means.  An anchor gets as
  its number how many different names are known by then, and of two anchors with one number the
  later one counts.
-/
import SampleSchema.Yaml.Grammar
import SampleSchema.Yaml.Scalar
import SampleSchema.Yaml.Scanning

namespace SampleSchema
namespace Yaml

/-- What is wrong with a text, be it its characters, its grammar or its meaning. -/
inductive Problem where
  /-- A character that YAML does not admit stands behind so many bytes. -/
  | unadmitted (offset : Nat)
  | grammar (f : Fault)
  /-- An alias without an anchor before it. -/
  | unknownAnchor (mark : Mark)
  /-- A node is wanted where the document has ended. -/
  | ended
  | severalDocuments
  /-- A node at this place does not fit; the path says under which keys it stands. -/
  | misfit (path : List String) (mark : Mark) (m : Misfit)
  deriving DecidableEq, Repr

/-- A problem in words. -/
def Problem.describe : Problem → String
  | unadmitted offset =>
    "control characters are not allowed" ++
      (if offset = 0 then "" else " at position " ++ toString offset)
  | grammar f => f.describe
  | unknownAnchor mark => "unknown anchor" ++ mark.told
  | ended => "EOF while parsing a value"
  | severalDocuments =>
    "deserializing from YAML containing more than one document is not supported"
  | misfit path mark m =>
    (if path.isEmpty then "" else ".".intercalate path ++ ": ") ++ m.message ++ mark.told

/-- What a node is, or where it ends. -/
inductive NodeKind where
  /-- No document at all. -/
  | missing
  | alias (number : Nat)
  | scalar (s : Scalar)
  | sequenceStart
  | sequenceEnd
  | mappingStart
  | mappingEnd
  deriving DecidableEq, Repr

/-- A node and its place. -/
structure Node where
  kind : NodeKind
  mark : Mark
  deriving DecidableEq, Repr

/-- The document of a text. -/
structure Document where
  nodes : List Node
  /-- The positions of nodes by the numbers of their anchors. -/
  anchors : List (Nat × Nat)
  /-- What is wrong behind the nodes. -/
  problem : Option Problem
  /-- Does nothing follow the document? -/
  isOnly : Bool

namespace Document

/-- What is known while the nodes of a document are gathered. -/
structure Gathering where
  nodes : List Node := []
  /-- The numbers of the names of anchors. -/
  names : List (String × Nat) := []
  anchors : List (Nat × Nat) := []

namespace Gathering

/-- Add a node, which may have an anchor. -/
def add (g : Gathering) (anchor : Option String) (kind : NodeKind) (mark : Mark) : Gathering :=
  let nodes := g.nodes ++ [⟨kind, mark⟩]
  match anchor with
  | none => { g with nodes := nodes }
  | some name =>
    let number := g.names.length
    { nodes := nodes
      names := (name, number) :: g.names.filter (·.1 != name)
      anchors := (number, g.nodes.length) :: g.anchors }

/-- Gather the nodes up to the end of the document; `fault` comes after the parts. -/
def run (fault : Option Fault) (g : Gathering) : List Part → Document
  | [] => ⟨g.nodes, g.anchors, fault.map .grammar, true⟩
  | p :: ps =>
    match p.kind with
    | .documentStart => run fault g ps
    | .streamEnd =>
      ⟨if g.nodes.isEmpty then [⟨.missing, p.mark⟩] else g.nodes, g.anchors, none, true⟩
    | .documentEnd =>
      ⟨g.nodes, g.anchors, none, ps.head?.map (·.kind) == some .streamEnd⟩
    | .alias name =>
      match g.names.find? (·.1 == name) with
      | none => ⟨g.nodes, g.anchors, some (.unknownAnchor p.mark), true⟩
      | some (_, number) => run fault (g.add none (.alias number) p.mark) ps
    | .scalar props style text =>
      run fault (g.add props.anchor (.scalar ⟨props.tag, style, text⟩) p.mark) ps
    | .sequenceStart props => run fault (g.add props.anchor .sequenceStart p.mark) ps
    | .sequenceEnd => run fault (g.add none .sequenceEnd p.mark) ps
    | .mappingStart props => run fault (g.add props.anchor .mappingStart p.mark) ps
    | .mappingEnd => run fault (g.add none .mappingEnd p.mark) ps

end Gathering

/-- The document of a text. -/
def ofText (text : String) : Document :=
  match firstUnadmitted? 0 text.toList with
  | some offset => ⟨[], [], some (.unadmitted offset), true⟩
  | none =>
    let parts := partsOf (tokensOf (scannable text))
    Gathering.run parts.fault {} parts.items

/-- What is left of the document at a node that an alias means. -/
def target (d : Document) (number : Nat) : List Node :=
  match d.anchors.find? (·.1 == number) with
  | none => []
  | some (_, position) => d.nodes.drop position

/-- The problem of a document that ends too early. -/
def shortage (d : Document) : Problem := d.problem.getD .ended

end Document
end Yaml
end SampleSchema

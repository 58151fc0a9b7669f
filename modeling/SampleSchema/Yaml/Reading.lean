/-
  Reading values from a document.

  A reader takes the nodes of a value from the front of a row and returns those behind it.  It
  follows an alias to the node that the alias means.  What does not fit is told with its place and
  with the keys under which it stands.
-/
import SampleSchema.Yaml.Document

namespace SampleSchema
namespace Yaml

/-- A reader of `α`, for a value that stands under the keys of a path. -/
abbrev Reader (α : Type) :=
  Document → (path : List String) → List Node → Except Problem (α × List Node)

/-- What a node is, for words about it. -/
def NodeKind.found : NodeKind → Except Misfit Found
  | scalar s => s.found
  | sequenceStart => .ok .sequence
  | mappingStart => .ok .mapping
  | missing | .alias _ | sequenceEnd | mappingEnd => .ok .nothing

/-- Why a node is no good where something else is expected. -/
def NodeKind.misfit (k : NodeKind) (expected : String) : Misfit :=
  match k.found with
  | .ok f => .wrongType f expected
  | .error m => m

/-- Follow an alias.  The result is the node that stands there or is meant, what is behind it, and
    what is behind the node or the alias in the document. -/
def follow (d : Document) (nodes : List Node) : Except Problem (Node × List Node × List Node) :=
  match nodes with
  | [] => .error d.shortage
  | n :: rest =>
    match n.kind with
    | .alias number =>
      match d.target number with
      | [] => .error d.shortage
      | t :: inside => .ok (t, inside, rest)
    | _ => .ok (n, rest, rest)

/-- Read a scalar whose text spells a value.  It has to be open, `tag` being the tag of its kind. -/
def readSpelled {α : Type} (tag expected : String) (value? : String → Option α) : Reader α :=
  fun d path nodes => do
    let (n, _, rest) ← follow d nodes
    let wrong : Except Problem (α × List Node) :=
      .error (.misfit path n.mark (n.kind.misfit expected))
    match n.kind with
    | .scalar s =>
      match (if s.isOpen tag then value? s.text else none) with
      | some v => .ok (v, rest)
      | none => wrong
    | _ => wrong

/-- Read a boolean. -/
def readBoolean : Reader Bool := readSpelled "bool" "a boolean" boolean?

/-- Read a whole number of 64 bits without sign. -/
def readNatural : Reader Nat :=
  readSpelled "int" "usize" fun s => (natural? s).filter fun n => decide (n < Nat.pow 2 64)

/-- A kind of record: which keys it has, and how the value of a key changes the record. -/
structure RecordType (κ α : Type) where
  /-- What messages call the record. -/
  expected : String
  /-- The spellings of keys, for messages. -/
  spellings : List String
  key? : String → Option κ
  /-- The name of a key. -/
  name : κ → String
  /-- Read the value of a key into a record. -/
  readValue : κ → α → Reader α

namespace RecordType

variable {κ α : Type} [DecidableEq κ] (r : RecordType κ α)

/-- Read a key, which may be any scalar; the second result is its part in the path. -/
def readKey (d : Document) (path : List String) (nodes : List Node) :
    Except Problem ((κ × String) × List Node) := do
  let (n, _, rest) ← follow d nodes
  match n.kind with
  | .scalar s =>
    match r.key? s.text with
    | some k =>
      let isAlias := match nodes with
        | ⟨.alias _, _⟩ :: _ => true
        | _ => false
      .ok ((k, if isAlias then "?" else s.text), rest)
    | none => .error (.misfit path n.mark (.unknownKey s.text r.spellings))
  | kind => .error (.misfit path n.mark (kind.misfit "field identifier"))

/-- Read entries up to the end of the mapping that starts at `start`; `seen` are the keys that were
    read, and `fuel` is at least the number of nodes. -/
def readEntries (d : Document) (path : List String) (start : Mark) :
    Nat → List κ → α → List Node → Except Problem (α × List Node)
  | 0, _, _, _ => .error d.shortage
  | _ + 1, _, _, [] => .error d.shortage
  | fuel + 1, seen, x, n :: rest =>
    if n.kind = .mappingEnd then .ok (x, rest)
    else do
      let ((k, part), after) ← r.readKey d path (n :: rest)
      if k ∈ seen then .error (.misfit path start (.repeatedKey (r.name k)))
      else
        let (x, after) ← r.readValue k x d (path ++ [part]) after
        readEntries d path start fuel (k :: seen) x after

/-- Read a record, the given one being what holds unless a key says otherwise.  A document or a
    value that is not there is a record without keys. -/
def read (x : α) : Reader α := fun d path nodes => do
  let (n, inside, rest) ← follow d nodes
  match n.kind with
  | .missing => .ok (x, rest)
  | .mappingStart =>
    let (y, after) ← r.readEntries d path n.mark (inside.length + 1) [] x inside
    let isAlias := match nodes with
      | ⟨.alias _, _⟩ :: _ => true
      | _ => false
    .ok (y, if isAlias then rest else after)
  | .scalar s =>
    if s.text.isEmpty && s.style = .plain then .ok (x, rest)
    else .error (.misfit path n.mark (n.kind.misfit r.expected))
  | kind => .error (.misfit path n.mark (kind.misfit r.expected))

end RecordType

/-- Read the only document of a text. -/
def readText {α : Type} (read : Reader α) (text : String) : Except Problem α := do
  let d := Document.ofText text
  let (x, _) ← read d [] d.nodes
  match d.problem with
  | some p => .error p
  | none => if d.isOnly then .ok x else .error .severalDocuments

end Yaml
end SampleSchema

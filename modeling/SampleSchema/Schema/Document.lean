/-
  Schemas as JSON documents.

  A schema is written as an object that has exactly the parts which are present, in a fixed order:
  type, alternatives, properties, items, required keys, format.
-/
import SampleSchema.Schema.Basic
import SampleSchema.Json.Writer

namespace SampleSchema
namespace Schema

/-- A field of a document, present when the part is. -/
def field (name : String) : Option Json → List (String × Json)
  | none => []
  | some v => [(name, v)]

mutual

/-- The schema as a JSON value. -/
def toJson : Schema → Json
  | ⟨k, a, p, i, r, f⟩ => .object (
      field "type" (k.map fun k => .string k.name)
      ++ field "anyOf" (match a with
          | none => none
          | some xs => some (.array (toJsonItems xs)))
      ++ field "properties" (match p with
          | none => none
          | some ps => some (.object (toJsonEntries ps)))
      ++ field "items" (match i with
          | none => none
          | some x => some (toJson x))
      ++ field "required" (r.map fun keys => .array (keys.map .string))
      ++ field "format" (f.map fun f => .string f.name))

/-- Schemas as JSON values. -/
def toJsonItems : List Schema → List Json
  | [] => []
  | x :: xs => toJson x :: toJsonItems xs

/-- Named schemas as JSON entries. -/
def toJsonEntries : List (String × Schema) → List (String × Json)
  | [] => []
  | (k, x) :: es => (k, toJson x) :: toJsonEntries es

end

/-- The text of a schema. -/
def write (l : Layout) (s : Schema) : String := s.toJson.write l

end Schema
end SampleSchema

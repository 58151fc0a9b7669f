/-
  Schemas: the documents that this library infers, merges, writes and reads.

  A schema is one node with six optional parts.  The same type covers the schema that accepts
  everything (no part at all), a typed schema, and a choice between alternatives (`anyOf` and
  nothing else).  The parts are independent: a schema that was read from a document may combine them
  in ways that no inference produces, and it is carried unchanged.

  Properties are kept in order of first appearance, and the schema text lists them in that order.
  Two schemas count as the same (`Schema.same`) when they differ at most in the order of their
  properties, at any depth; the order of `required` and of `anyOf` counts.
-/
import SampleSchema.Keyed

namespace SampleSchema

/-- The type that a schema asks for. -/
inductive Kind where
  | null | boolean | integer | number | string | array | object
  deriving DecidableEq, Repr

namespace Kind

/-- Every kind, in the order in which messages list them. -/
def all : List Kind := [null, boolean, integer, number, string, array, object]

/-- The spelling in schema documents and messages. -/
def name : Kind → String
  | null => "null"
  | boolean => "boolean"
  | integer => "integer"
  | number => "number"
  | string => "string"
  | array => "array"
  | object => "object"

/-- The spelling in log fields. -/
def title : Kind → String
  | null => "Null"
  | boolean => "Boolean"
  | integer => "Integer"
  | number => "Number"
  | string => "String"
  | array => "Array"
  | object => "Object"

/-- The kind that a document spells this way. -/
def ofName? (s : String) : Option Kind := all.find? (·.name = s)

theorem ofName?_name (k : Kind) : ofName? k.name = some k := by cases k <;> decide

end Kind

/-- What the text of a string looks like. -/
inductive Format where
  | uri | email | date | dateTime
  deriving DecidableEq, Repr

namespace Format

/-- Every format, in the order in which detection tries them and messages list them. -/
def all : List Format := [uri, email, date, dateTime]

/-- The spelling in schema documents and messages. -/
def name : Format → String
  | uri => "uri"
  | email => "email"
  | date => "date"
  | dateTime => "date-time"

/-- The format that a document spells this way. -/
def ofName? (s : String) : Option Format := all.find? (·.name = s)

theorem ofName?_name (f : Format) : ofName? f.name = some f := by cases f <;> decide

end Format

/-- One schema node.  A part that is `none` is absent from the document, which differs from a part
    that is present and empty. -/
structure Schema where
  /-- The type asked for. -/
  kind : Option Kind := none
  /-- Alternatives, one of which has to accept. -/
  anyOf : Option (List Schema) := none
  /-- Schemas of the entries of an object, by key. -/
  properties : Option (List (String × Schema)) := none
  /-- The schema of every item of an array. -/
  items : Option Schema := none
  /-- Keys that an object has to have. -/
  required : Option (List String) := none
  /-- A hint on the text of a string. -/
  format : Option Format := none

namespace Schema

/-- The schema that accepts everything. -/
def any : Schema := {}

/-- A type and nothing else. -/
def ofKind (k : Kind) : Schema := { kind := some k }

/-- A string schema, with a format where one is known. -/
def text (f : Option Format) : Schema := { kind := some .string, format := f }

/-- An array schema with a schema for its items. -/
def arrayOf (items : Schema) : Schema := { kind := some .array, items := some items }

/-- An object schema. -/
def objectOf (properties : Keyed Schema) (required : List String) : Schema :=
  { kind := some .object, properties := some properties, required := some required }

/-- The schema of an object that was seen once: every key that it showed is required. -/
def objectSeen (properties : Keyed Schema) : Schema := objectOf properties properties.keys

/-- A choice between alternatives. -/
def choice (alternatives : List Schema) : Schema := { anyOf := some alternatives }

/-- The schema of one property. -/
def property? (s : Schema) (key : String) : Option Schema :=
  s.properties.bind (Keyed.get? · key)

/-- Does the schema list this key as required? -/
def requires (s : Schema) (key : String) : Bool :=
  match s.required with
  | none => false
  | some keys => keys.contains key

/-- Is this the schema that accepts everything? -/
def isAny : Schema → Bool
  | ⟨none, none, none, none, none, none⟩ => true
  | _ => false

theorem isAny_iff (s : Schema) : s.isAny = true ↔ s = any := by
  obtain ⟨k, a, p, i, r, f⟩ := s
  constructor
  · intro h
    unfold isAny at h
    split at h
    · next heq => cases heq; rfl
    · cases h
  · intro h; cases h; rfl

/-! ## Sameness up to the order of properties -/

mutual

/-- Are two schemas equal once the order of properties is left out of account? -/
def same : Schema → Schema → Bool
  | ⟨k, a, p, i, r, f⟩, t =>
    decide (k = t.kind) && decide (r = t.required) && decide (f = t.format)
    && (match a, t.anyOf with
        | none, none => true
        | some xs, some ys => sameAll xs ys
        | _, _ => false)
    && (match i, t.items with
        | none, none => true
        | some x, some y => same x y
        | _, _ => false)
    && (match p, t.properties with
        | none, none => true
        | some m, some n => decide (m.length = n.length) && sameUnder m n
        | _, _ => false)

/-- Are two lists of schemas equal item by item? -/
def sameAll : List Schema → List Schema → Bool
  | [], [] => true
  | x :: xs, y :: ys => same x y && sameAll xs ys
  | _, _ => false

/-- Does `n` give every key of the first map a schema that is the same? -/
def sameUnder : List (String × Schema) → List (String × Schema) → Bool
  | [], _ => true
  | (key, x) :: m, n =>
    (match Keyed.get? n key with
     | some y => same x y
     | none => false)
    && sameUnder m n

end

end Schema

end SampleSchema

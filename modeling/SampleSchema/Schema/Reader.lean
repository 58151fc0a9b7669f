/-
  Reading schemas back from JSON documents.

  A document is read while its text is scanned, so the first fault in the text wins, be it one of
  grammar or one of meaning.  A schema is an object with the known fields, each at most once and in
  any order; a field that is `null` counts as absent, and fields that are not known are skipped.  It
  may also be an array that gives the fields in their order, those at the end being left out at
  will. A name (of a type or a format) is a string, or an object with that name as its only key and
  `null` as its value.
-/
import SampleSchema.Schema.Basic
import SampleSchema.Json.Skip
import SampleSchema.Json.Reader

namespace SampleSchema
namespace Schema

open Json

/-- The fields of a schema document. -/
inductive Field where
  | kind | anyOf | properties | items | required | format
  deriving DecidableEq, Repr

namespace Field

/-- Every field, in the order in which an array gives them. -/
def all : List Field := [kind, anyOf, properties, items, required, format]

/-- The key of a field. -/
def key : Field → String
  | kind => "type"
  | anyOf => "anyOf"
  | properties => "properties"
  | items => "items"
  | required => "required"
  | format => "format"

/-- The field that has this key. -/
def ofKey? (s : String) : Option Field := all.find? (·.key = s)

end Field

/-- Refuse the value at the start of the text because another one is wanted.  A scalar is read
    first, so a fault inside it comes first, and the place is after it; for a container it is before
    it. -/
def refuse {α : Type} (expected : String) (cs : List Char) : Except Fault α :=
  let wrong (found : Found) (rest : List Char) : Except Fault α :=
    failHere (.mismatch (.wrongType found expected)) rest
  match cs with
  | [] => failHere .valueExpected []
  | c :: r =>
    if c = 'n' then wordValue () ['u', 'l', 'l'] (c :: r) >>= fun x => wrong .null x.rest
    else if c = 't' then
      wordValue () ['r', 'u', 'e'] (c :: r) >>= fun x => wrong (.bool true) x.rest
    else if c = 'f' then
      wordValue () ['a', 'l', 's', 'e'] (c :: r) >>= fun x => wrong (.bool false) x.rest
    else if c = '-' then Numeral.read true r >>= fun x => wrong (.number x.value) x.rest
    else if c.isDigit then Numeral.read false (c :: r) >>= fun x => wrong (.number x.value) x.rest
    else if c = '"' then readString r >>= fun x => wrong (.string x.value) x.rest
    else if c = '[' then wrong .sequence (c :: r)
    else if c = '\x7b' then wrong .map (c :: r)
    else failNext .valueExpected (c :: r)

/-- A string; `expected` is what a refusal says was wanted. -/
def readText (expected : String) : Reader String := fun cs =>
  match h : skipBlanks cs with
  | [] => failHere .endInValue []
  | c :: r =>
    if c = '"' then (readString r).map fun s => (s.behind c).afterBlanks h
    else refuse expected (c :: r)

/-- Names that a document may hold, with what they stand for. -/
structure Vocabulary (α : Type) where
  ofName? : String → Option α
  names : List String

/-- The names of types. -/
def kindNames : Vocabulary Kind := ⟨Kind.ofName?, Kind.all.map Kind.name⟩

/-- The names of formats. -/
def formatNames : Vocabulary Format := ⟨Format.ofName?, Format.all.map Format.name⟩

/-- What a name stands for. -/
def Vocabulary.lookUp {α : Type} (v : Vocabulary α) (name : String) : Except Mismatch α :=
  match v.ofName? name with
  | some x => .ok x
  | none => .error (.unknownName name v.names)

/-- What a JSON value is, for words about it. -/
def foundIn : Json → Found
  | .null => .null
  | .bool b => .bool b
  | .number n => .number n
  | .string s => .string s
  | .array _ => .sequence
  | .object _ => .map

/-- What a JSON value names: a string, or an object with a name as its only key and `null` as its
    value. -/
def Vocabulary.ofJson {α : Type} (v : Vocabulary α) : Json → Except Mismatch α
  | .string s => v.lookUp s
  | .object [(name, x)] =>
    match v.lookUp name, x with
    | .ok y, .null => .ok y
    | .ok _, x => .error (.wrongType (foundIn x) "unit")
    | .error m, _ => .error m
  | .object _ => .error (.wrongValue .map "map with a single key")
  | x => .error (.wrongType (foundIn x) "string or map")

/-- A string that is one of the known names. -/
def readKnown {α : Type} (v : Vocabulary α) : Reader α := fun cs =>
  match readText "variant identifier" cs with
  | .error e => .error e
  | .ok s =>
    match v.lookUp s.value with
    | .ok x => .ok ⟨x, s.rest, s.shorter⟩
    | .error m => failHere (.mismatch m) s.rest

/-- The value `null` and nothing else. -/
def readUnit : Reader Unit := fun cs =>
  match h : skipBlanks cs with
  | [] => failHere .endInValue []
  | c :: r =>
    if c = 'n' then
      (wordValue () ['u', 'l', 'l'] (c :: r)).map (Reading.afterBlanks h)
    else refuse "unit" (c :: r)

/-- A known name, as a string or as the only key of an object; `roomy` tells whether an object may
    be opened here. -/
def readName {α : Type} (roomy : Bool) (v : Vocabulary α) : Reader α := fun cs =>
  match h : skipBlanks cs with
  | [] => failHere .endInValue []
  | c :: r =>
    if c = '\x7b' then
      if roomy then
        match readKnown v r with
        | .error e => .error e
        | .ok x =>
          match readColon x.rest with
          | .error e => .error e
          | .ok k =>
            match readUnit k.rest with
            | .error e => .error e
            | .ok u =>
              match h' : skipBlanks u.rest with
              | [] => failHere .endInObject []
              | d :: after =>
                if d = '\x7d' then
                  let brace := (Reading.one x.value d after).afterBlanks h'
                  .ok (((x.andThen (k.andThen (u.andThen brace))).behind c).afterBlanks h)
                else failHere .valueExpected (d :: after)
      else failNext .tooDeep (c :: r)
    else if c = '"' then
      (readKnown v (c :: r)).map (Reading.afterBlanks h)
    else failNext .valueExpected (c :: r)

/-- A part that may be `null`, which is the same as its absence. -/
def readOptional {α : Type} (inner : Reader α) : Reader (Option α) := fun cs =>
  match h : skipBlanks cs with
  | [] => (inner cs).map (Reading.map some)
  | c :: r =>
    if c = 'n' then
      (wordValue none ['u', 'l', 'l'] (c :: r)).map (Reading.afterBlanks h)
    else (inner cs).map (Reading.map some)

/-- A list; `item` is missing where no container may be opened any more. -/
def readList {α : Type} (item : Option (Reader α)) : Reader (List α) := fun cs =>
  match h : skipBlanks cs with
  | [] => failHere .endInValue []
  | c :: r =>
    if c = '[' then
      match item with
      | none => failNext .tooDeep (c :: r)
      | some item => (readItems item true r).map fun xs => (xs.behind c).afterBlanks h
    else refuse "a sequence" (c :: r)

/-- Named values; `item` is missing where no container may be opened any more. -/
def readMap {α : Type} (item : Option (Reader α)) : Reader (Keyed α) := fun cs =>
  match h : skipBlanks cs with
  | [] => failHere .endInValue []
  | c :: r =>
    if c = '\x7b' then
      match item with
      | none => failNext .tooDeep (c :: r)
      | some item =>
        (readEntries item true r).map fun es =>
          ((es.map Keyed.ofEntries).behind c).afterBlanks h
    else refuse "a map" (c :: r)

/-- What one field adds to a schema, for given readers of schemas: `here` for a schema in place and
    `inside` for those in a container, which is missing where none may be opened. -/
def readField (here : Reader Schema) (inside : Option (Reader Schema)) (roomy : Bool) (f : Field)
    (s : Schema) : Reader Schema := fun cs =>
  match f with
  | .kind => (readOptional (readName roomy kindNames) cs).map
      (Reading.map fun v => { s with kind := v })
  | .anyOf => (readOptional (readList inside) cs).map (Reading.map fun v => { s with anyOf := v })
  | .properties =>
    (readOptional (readMap inside) cs).map (Reading.map fun v => { s with properties := v })
  | .items => (readOptional here cs).map (Reading.map fun v => { s with items := v })
  | .required =>
    (readOptional (readList (if roomy then some (readText "a string") else none)) cs).map
      (Reading.map fun v => { s with required := v })
  | .format => (readOptional (readName roomy formatNames) cs).map
      (Reading.map fun v => { s with format := v })

/-- Where a repeated key is reported: after the blanks behind it, and after a closing brace
    there. -/
def repeatPlace (rest : List Char) : List Char :=
  match skipBlanks rest with
  | '\x7d' :: after => after
  | cs => cs

/-- The fields of a schema up to the closing brace.  `field f s` reads the value of a field and adds
    it to a schema; `seen` are the fields that were read. -/
def readFields (field : Field → Schema → Reader Schema) (seen : List Field) (s : Schema)
    (first : Bool) (cs : List Char) : Except Fault (Reading Schema cs) :=
  match nextKey first cs with
  | .error e => .error e
  | .ok (.closed r h) => .ok ⟨s, r, h⟩
  | .ok (.item r h) =>
    match readKey r with
    | .error e => .error e
    | .ok k =>
      have hk : k.rest.length < r.length := k.shorter
      match Field.ofKey? k.value with
      | none =>
        match readColon k.rest with
        | .error e => .error e
        | .ok c =>
          have hc : c.rest.length < k.rest.length := c.shorter
          match skipValue c.rest with
          | .error e => .error e
          | .ok x =>
            have hx : x.rest.length < c.rest.length := x.shorter
            match readFields field seen s false x.rest with
            | .error e => .error e
            | .ok t => .ok ⟨t.value, t.rest, by have := t.shorter; omega⟩
      | some f =>
        if f ∈ seen then failHere (.mismatch (.repeatedField f.key)) (repeatPlace k.rest)
        else
          match readColon k.rest with
          | .error e => .error e
          | .ok c =>
            have hc : c.rest.length < k.rest.length := c.shorter
            match field f s c.rest with
            | .error e => .error e
            | .ok x =>
              have hx : x.rest.length < c.rest.length := x.shorter
              match readFields field (f :: seen) x.value false x.rest with
              | .error e => .error e
              | .ok t => .ok ⟨t.value, t.rest, by have := t.shorter; omega⟩
termination_by cs.length

/-- The bracket that closes an array of fields. -/
def readListEnd : Reader Unit := fun cs =>
  match h : skipBlanks cs with
  | [] => failHere .endInList []
  | c :: r =>
    if c = ']' then .ok ((Reading.one () c r).afterBlanks h)
    else if c = ',' then
      match skipBlanks r with
      | [] => failNext .trailingCharacters []
      | d :: after =>
        if d = ']' then failNext .commaAtEnd (d :: after)
        else failNext .trailingCharacters (d :: after)
    else failNext .trailingCharacters (c :: r)

/-- The given fields in their order, up to the closing bracket. -/
def readFieldList (field : Field → Schema → Reader Schema) :
    List Field → Schema → Bool → (cs : List Char) → Except Fault (Reading Schema cs)
  | [], s, _, cs => (readListEnd cs).map (Reading.map fun _ => s)
  | f :: fs, s, first, cs =>
    match nextItem first cs with
    | .error e => .error e
    | .ok (.closed r h) => .ok ⟨s, r, h⟩
    | .ok (.item r h) =>
      match field f s r with
      | .error e => .error e
      | .ok x =>
        match readFieldList field fs x.value false x.rest with
        | .error e => .error e
        | .ok t => .ok ⟨t.value, t.rest, by have := x.shorter; have := t.shorter; omega⟩

/-- A schema at the start of the text, with room for this many levels of containers. -/
def readSchema (room : Nat) : Reader Schema := fun cs =>
  match h : skipBlanks cs with
  | [] => failHere .endInValue []
  | c :: r =>
    if c = '\x7b' ∨ c = '[' then
      match room with
      | 0 => failNext .tooDeep (c :: r)
      | room + 1 =>
        let inside : Option (Reader Schema) := match room with
          | 0 => none
          | deeper + 1 => some (readSchema deeper)
        let field := readField (readSchema room) inside (room != 0)
        let fields :=
          if c = '[' then readFieldList field Field.all {} true r
          else readFields field [] {} true r
        fields.map fun s => (s.behind c).afterBlanks h
    else refuse "struct SchemaFragment" (c :: r)

/-- The schema that a text holds. -/
def parseChars (cs : List Char) : Except Fault Schema :=
  match readSchema deepest cs with
  | .error e => .error e
  | .ok r => finish r.value r.rest

/-- The schema that a text holds, or what is wrong with it, in words. -/
def parse (text : String) : Except String Schema :=
  match parseChars text.toList with
  | .ok s => .ok s
  | .error f => .error (f.describe text.toList)

end Schema
end SampleSchema

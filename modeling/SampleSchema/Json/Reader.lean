/-
  Reading JSON values.

  `Json.readValue room` reads one value whose containers nest at most `room` deep; an opening
  bracket beyond that is a fault, so reading recurses on the room that is left.  `Json.parse` reads
  a whole text: one value, with at most `deepest` levels of containers, and nothing but blanks
  around it.
-/
import SampleSchema.Json.Container

namespace SampleSchema
namespace Json

/-- How deep the containers of one text may nest. -/
def deepest : Nat := 127

/-- One value at the start of the text. -/
def readValue (room : Nat) : Reader Json := fun cs =>
  match h : skipBlanks cs with
  | [] => failHere .endInValue []
  | c :: r =>
    if c = 'n' then (wordValue .null ['u', 'l', 'l'] (c :: r)).map (Reading.afterBlanks h)
    else if c = 't' then
      (wordValue (.bool true) ['r', 'u', 'e'] (c :: r)).map (Reading.afterBlanks h)
    else if c = 'f' then
      (wordValue (.bool false) ['a', 'l', 's', 'e'] (c :: r)).map (Reading.afterBlanks h)
    else if c = '-' then
      (Numeral.read true r).map fun n => ((n.map .number).behind c).afterBlanks h
    else if c.isDigit then
      (Numeral.read false (c :: r)).map fun n => (n.map .number).afterBlanks h
    else if c = '"' then
      (readString r).map fun s => ((s.map .string).behind c).afterBlanks h
    else if c = '[' then
      match room with
      | 0 => failNext .tooDeep (c :: r)
      | room + 1 =>
        (readItems (readValue room) true r).map fun xs =>
          ((xs.map .array).behind c).afterBlanks h
    else if c = '\x7b' then
      match room with
      | 0 => failNext .tooDeep (c :: r)
      | room + 1 =>
        (readEntries (readValue room) true r).map fun es =>
          ((es.map fun es => .object (Keyed.ofEntries es)).behind c).afterBlanks h
    else failNext .valueExpected (c :: r)

/-- Only blanks may follow. -/
def finish (v : α) (rest : List Char) : Except Fault α :=
  match skipBlanks rest with
  | [] => .ok v
  | c :: r => failNext .trailingCharacters (c :: r)

/-- The value that a text holds. -/
def parseChars (cs : List Char) : Except Fault Json :=
  match readValue deepest cs with
  | .error e => .error e
  | .ok r => finish r.value r.rest

/-- The value that a text holds, or what is wrong with it, in words. -/
def parse (text : String) : Except String Json :=
  match parseChars text.toList with
  | .ok v => .ok v
  | .error f => .error (f.describe text.toList)

end Json
end SampleSchema

/-
  The contents of arrays and objects.

  `readItems` and `readEntries` take what stands between an opening bracket, which has been taken,
  and the closing one, which they take.  They are told how to read one item, so that values and
  documents of a fixed form share them.  Each item shortens the text, which is why the loops end.
-/
import SampleSchema.Json.Token

namespace SampleSchema
namespace Json

variable {α : Type}

/-- Is there another item?  After the first one a comma has to come before it.  The answer is the
    text at which the item starts, or else the text after the closing bracket. -/
inductive Continuation (before : List Char) where
  | item (rest : List Char) (notLonger : rest.length ≤ before.length)
  | closed (rest : List Char) (shorter : rest.length < before.length)

/-- What comes next in a list. -/
def nextItem (first : Bool) (cs : List Char) : Except Fault (Continuation cs) :=
  match h : skipBlanks cs with
  | [] => failHere .endInList []
  | c :: r =>
    have hr : r.length + 1 ≤ cs.length := length_le_of_skipBlanks h
    if c = ']' then .ok (.closed r hr)
    else if first then .ok (.item (c :: r) hr)
    else if c = ',' then
      match h' : skipBlanks r with
      | [] => failHere .endInValue []
      | d :: r' =>
        have hr' : r'.length + 1 ≤ r.length := length_le_of_skipBlanks h'
        if d = ']' then failNext .commaAtEnd (d :: r')
        else .ok (.item (d :: r') (by simp only [List.length_cons]; omega))
    else failNext .listContinuation (c :: r)

/-- The items up to the closing bracket. -/
def readItems (item : Reader α) (first : Bool) (cs : List Char) :
    Except Fault (Reading (List α) cs) :=
  match nextItem first cs with
  | .error e => .error e
  | .ok (.closed r h) => .ok ⟨[], r, h⟩
  | .ok (.item r h) =>
    match item r with
    | .error e => .error e
    | .ok x =>
      have hx : x.rest.length < r.length := x.shorter
      match readItems item false x.rest with
      | .error e => .error e
      | .ok xs => .ok ⟨x.value :: xs.value, xs.rest, by have := xs.shorter; omega⟩
termination_by cs.length

/-- What comes next in an object: a key, whose opening quote is still to be taken, or the end. -/
def nextKey (first : Bool) (cs : List Char) : Except Fault (Continuation cs) :=
  match h : skipBlanks cs with
  | [] => failHere .endInObject []
  | c :: r =>
    have hr : r.length + 1 ≤ cs.length := length_le_of_skipBlanks h
    if c = '\x7d' then .ok (.closed r hr)
    else if first then
      if c = '"' then .ok (.item (c :: r) hr) else failNext .keyNotString (c :: r)
    else if c = ',' then
      match h' : skipBlanks r with
      | [] => failHere .endInValue []
      | d :: r' =>
        have hr' : r'.length + 1 ≤ r.length := length_le_of_skipBlanks h'
        if d = '"' then .ok (.item (d :: r') (by simp only [List.length_cons]; omega))
        else if d = '\x7d' then failNext .commaAtEnd (d :: r')
        else failNext .keyNotString (d :: r')
    else failNext .objectContinuation (c :: r)

/-- A key, from its opening quote on. -/
def readKey : Reader String := fun cs =>
  match cs with
  | [] => failHere .endInString []
  | c :: r => (readString r).map (Reading.behind c)

/-- The colon after a key. -/
def readColon : Reader Unit := fun cs =>
  match h : skipBlanks cs with
  | [] => failHere .endInObject []
  | c :: r =>
    if c = ':' then .ok ⟨(), r, length_le_of_skipBlanks h⟩
    else failNext .colonMissing (c :: r)

/-- The entries up to the closing brace. -/
def readEntries (item : Reader α) (first : Bool) (cs : List Char) :
    Except Fault (Reading (List (String × α)) cs) :=
  match nextKey first cs with
  | .error e => .error e
  | .ok (.closed r h) => .ok ⟨[], r, h⟩
  | .ok (.item r h) =>
    match readKey r with
    | .error e => .error e
    | .ok k =>
      match readColon k.rest with
      | .error e => .error e
      | .ok c =>
        match item c.rest with
        | .error e => .error e
        | .ok x =>
          have hk : k.rest.length < r.length := k.shorter
          have hc : c.rest.length < k.rest.length := c.shorter
          have hx : x.rest.length < c.rest.length := x.shorter
          match readEntries item false x.rest with
          | .error e => .error e
          | .ok es => .ok ⟨(k.value, x.value) :: es.value, es.rest, by have := es.shorter; omega⟩
termination_by cs.length

end Json
end SampleSchema

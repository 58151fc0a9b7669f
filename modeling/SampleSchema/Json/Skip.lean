/-
  Passing over values whose contents do not matter.

  A document reader skips the values of keys that it does not know.  The grammar is the one that
  reading checks, with three differences: containers may nest as deep as they like, so the open
  brackets are kept in a list; a surrogate need not have its partner; and a number that breaks off
  is a bad number, not an early end.
-/
import SampleSchema.Json.Container

namespace SampleSchema
namespace Json

/-- An open bracket. -/
inductive Bracket where
  | list | object
  deriving DecidableEq

/-- What it means that the text ends inside this bracket. -/
def Bracket.atEnd : Bracket → Cause
  | list => .endInList
  | object => .endInObject

/-- What should have come after an item inside this bracket. -/
def Bracket.continuation : Bracket → Cause
  | list => .listContinuation
  | object => .objectContinuation

/-- The character that closes it. -/
def Bracket.closer : Bracket → Char
  | list => ']'
  | object => '\x7d'

/-- Pass over the rest of a string, closing quote included. -/
def skipString (cs : List Char) : Except Fault (Reading Unit cs) :=
  match cs with
  | [] => failHere .endInString []
  | c :: rest =>
    if c = '"' then .ok (.one () c rest)
    else if c = '\\' then
      match rest with
      | [] => failHere .endInString []
      | d :: after =>
        if d = 'u' then
          match readHex4 after with
          | .error e => .error e
          | .ok x =>
            have : x.rest.length < after.length := x.shorter
            match skipString x.rest with
            | .error e => .error e
            | .ok r => .ok (((x.andThen r).behind d).behind c)
        else if (shortEscape? d).isSome then
          match skipString after with
          | .error e => .error e
          | .ok r => .ok ((r.behind d).behind c)
        else failNext .badEscape (d :: after)
    else if c < ' ' then failHere .controlCharacter (c :: rest)
    else match skipString rest with
      | .error e => .error e
      | .ok r => .ok (r.behind c)
termination_by cs.length

/-- Pass over an exponent, if the text starts with one. -/
def skipExponent (cs : List Char) : Except Fault (Tail Unit cs) :=
  match cs with
  | [] => .ok (.start () [])
  | c :: r =>
    if Numeral.isMark c then
      let after := (Numeral.exponentSign r).2
      if (after.head?.map Char.isDigit).getD false then
        .ok ⟨(), after.dropWhile Char.isDigit, Numeral.length_exponentDigits_le c r⟩
      else failNext .badNumber after
    else .ok (.start () (c :: r))

theorem length_pointDigits_le (cs : List Char) :
    (cs.dropWhile Char.isDigit).length ≤ ('.' :: cs).length :=
  Nat.le_succ_of_le (Numeral.length_dropWhile_le _ cs)

/-- Pass over a point and the digits after it, if the text starts with a point. -/
def skipFraction (cs : List Char) : Except Fault (Tail Unit cs) :=
  match cs with
  | '.' :: r =>
    if (r.head?.map Char.isDigit).getD false then
      .ok ⟨(), r.dropWhile Char.isDigit, length_pointDigits_le r⟩
    else failNext .badNumber r
  | cs => .ok (.start () cs)

/-- Pass over a number whose sign has been taken. -/
def skipNumber : Reader Unit := fun cs =>
  match cs with
  | [] => failHere .badNumber []
  | c :: r => do
    let w ← Numeral.scanWhole (c :: r)
    let f ← skipFraction w.rest
    let e ← skipExponent f.rest
    .ok ⟨(), e.rest, Nat.lt_of_le_of_lt e.notLonger (Nat.lt_of_le_of_lt f.notLonger w.shorter)⟩

/-- Pass over a value without contents; `none` where the text starts with something else. -/
def skipScalar (c : Char) (r : List Char) : Option (Except Fault (Reading Unit (c :: r))) :=
  if c = 'n' then some (wordValue () ['u', 'l', 'l'] (c :: r))
  else if c = 't' then some (wordValue () ['r', 'u', 'e'] (c :: r))
  else if c = 'f' then some (wordValue () ['a', 'l', 's', 'e'] (c :: r))
  else if c = '-' then some ((skipNumber r).map (Reading.behind c))
  else if c.isDigit then some (skipNumber (c :: r))
  else if c = '"' then some ((skipString r).map (Reading.behind c))
  else none

/-- Pass over a key and its colon. -/
def skipKey : Reader Unit := fun cs =>
  match h : skipBlanks cs with
  | [] => failHere .endInObject []
  | c :: r =>
    if c = '"' then do
      let s ← skipString r
      let k ← readColon s.rest
      .ok (((s.andThen k).behind c).afterBlanks h)
    else failNext .keyNotString (c :: r)

/-- What may come before the next value in a bracket: a key in an object, nothing in a list. -/
def skipLead (b : Bracket) (cs : List Char) : Except Fault (Tail Unit cs) :=
  match b with
  | .list => .ok (.start () cs)
  | .object => (skipKey cs).map fun k => ⟨(), k.rest, Nat.le_of_lt k.shorter⟩

mutual

/-- Pass over a value inside the given brackets, innermost first, and over all that follows up to
    the end of the outermost one. -/
def skipInside (opened : List Bracket) (cs : List Char) : Except Fault (Reading Unit cs) :=
  match h : skipBlanks cs with
  | [] => failHere .endInValue []
  | c :: r =>
    have hr : r.length + 1 ≤ cs.length := length_le_of_skipBlanks h
    match skipScalar c r with
    | some (.error e) => .error e
    | some (.ok x) =>
      have hx : x.rest.length < r.length + 1 := x.shorter
      match skipAfter true opened x.rest with
      | .error e => .error e
      | .ok t => .ok ⟨(), t.rest, by have := t.notLonger; omega⟩
    | none =>
      if c = '[' then
        match skipAfter false (.list :: opened) r with
        | .error e => .error e
        | .ok t => .ok ⟨(), t.rest, by have := t.notLonger; omega⟩
      else if c = '\x7b' then
        match skipAfter false (.object :: opened) r with
        | .error e => .error e
        | .ok t => .ok ⟨(), t.rest, by have := t.notLonger; omega⟩
      else failNext .valueExpected (c :: r)
termination_by 2 * cs.length

/-- Go on after a value, or after an opening bracket (`separate` is false), up to the end of the
    outermost bracket. -/
def skipAfter (separate : Bool) (opened : List Bracket) (cs : List Char) :
    Except Fault (Tail Unit cs) :=
  match opened with
  | [] => .ok ⟨(), cs, Nat.le_refl _⟩
  | b :: outer =>
    match h : skipBlanks cs with
    | [] => failHere b.atEnd []
    | c :: r =>
      have hr : r.length + 1 ≤ cs.length := length_le_of_skipBlanks h
      if c = b.closer then
        match skipAfter true outer r with
        | .error e => .error e
        | .ok t => .ok ⟨(), t.rest, by have := t.notLonger; omega⟩
      else if separate then
        if c = ',' then
          match skipLead b r with
          | .error e => .error e
          | .ok k =>
            have hk : k.rest.length ≤ r.length := k.notLonger
            match skipInside (b :: outer) k.rest with
            | .error e => .error e
            | .ok x => .ok ⟨(), x.rest, by have := x.shorter; omega⟩
        else failNext b.continuation (c :: r)
      else
        match skipLead b (c :: r) with
        | .error e => .error e
        | .ok k =>
          have hk : k.rest.length ≤ r.length + 1 := k.notLonger
          match skipInside (b :: outer) k.rest with
          | .error e => .error e
          | .ok x => .ok ⟨(), x.rest, by have := x.shorter; omega⟩
termination_by 2 * cs.length + 1

end

/-- Pass over one value. -/
def skipValue : Reader Unit := skipInside []

end Json
end SampleSchema

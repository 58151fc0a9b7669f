/-
  Words and strings in JSON texts.

  `readWord` takes the rest of one of the words `null`, `true` and `false`, whose first letter has
  been seen.  `readString` takes the rest of a string whose opening quote has been taken and
  resolves its escapes; a character beyond the 16-bit range is written as two escapes, a leading and
  a trailing surrogate, and neither may stand alone.
-/
import SampleSchema.Json.Numeral

namespace SampleSchema
namespace Json

/-- Take the expected letters. -/
def readWord : List Char → (cs : List Char) → Except Fault (Tail Unit cs)
  | [], cs => .ok ⟨(), cs, Nat.le_refl _⟩
  | _ :: _, [] => failHere .endInValue []
  | w :: ws, c :: cs =>
    if c = w then do
      let r ← readWord ws cs
      .ok ⟨(), r.rest, Nat.le_succ_of_le r.notLonger⟩
    else failNext .wordExpected (c :: cs)

/-- Take a word whose first letter has been seen, and give it a value. -/
def wordValue (v : α) (letters : List Char) : Reader α := fun cs =>
  match cs with
  | [] => failHere .endInValue []
  | _ :: cs => do
    let r ← readWord letters cs
    .ok ⟨v, r.rest, Nat.lt_succ_of_le r.notLonger⟩

/-! ## Escapes -/

/-- The four hexadecimal digits of an escape.  They are counted in bytes: where fewer than four
    bytes are left the text ends inside the string. -/
def readHex4 : Reader Nat := fun cs =>
  if byteLength (cs.take 4) < 4 then failHere .endInString []
  else match cs with
    | a :: b :: c :: d :: rest =>
      match hexValue? a, hexValue? b, hexValue? c, hexValue? d with
      | some w, some x, some y, some z =>
        .ok ⟨((w * 16 + x) * 16 + y) * 16 + z, rest, by simp only [List.length_cons]; omega⟩
      | _, _, _, _ => .error ⟨.badEscape, cs, 4⟩
    | _ => .error ⟨.badEscape, cs, 4⟩

/-- Is the 16-bit unit the first half of a pair? -/
def isLeading (n : Nat) : Bool := decide (0xD800 ≤ n) && decide (n ≤ 0xDBFF)

/-- Is the 16-bit unit the second half of a pair? -/
def isTrailing (n : Nat) : Bool := decide (0xDC00 ≤ n) && decide (n ≤ 0xDFFF)

/-- The character that a pair of units stands for. -/
def pairChar (lead trail : Nat) : Char :=
  Char.ofNat (0x10000 + (lead - 0xD800) * 0x400 + (trail - 0xDC00))

/-- The second escape of a pair. -/
def readTrailing (lead : Nat) : Reader Char := fun cs =>
  match cs with
  | [] => failHere .endInString []
  | ['\\'] => failHere .endInString []
  | '\\' :: 'u' :: rest => do
    let r ← readHex4 rest
    if isTrailing r.value then
      .ok ⟨pairChar lead r.value, r.rest, by
        have := r.shorter; simp only [List.length_cons]; omega⟩
    else failHere .trailingSurrogateAlone r.rest
  | '\\' :: c :: rest => failNext .leadingSurrogateAlone (c :: rest)
  | cs => failNext .leadingSurrogateAlone cs

/-- The character that an escape by number stands for, `\u` having been taken. -/
def readUnit : Reader Char := fun cs => do
  let r ← readHex4 cs
  if isTrailing r.value then failHere .trailingSurrogateAlone r.rest
  else if isLeading r.value then do
    let t ← readTrailing r.value r.rest
    .ok ⟨t.value, t.rest, Nat.lt_trans t.shorter r.shorter⟩
  else .ok ⟨Char.ofNat r.value, r.rest, r.shorter⟩

/-- The character that a one-letter escape stands for. -/
def shortEscape? (c : Char) : Option Char :=
  if c = '"' then some '"'
  else if c = '\\' then some '\\'
  else if c = '/' then some '/'
  else if c = 'b' then some '\x08'
  else if c = 'f' then some '\x0c'
  else if c = 'n' then some '\n'
  else if c = 'r' then some '\r'
  else if c = 't' then some '\t'
  else none

/-- The character that an escape stands for, the backslash having been taken. -/
def readEscape : Reader Char := fun cs =>
  match cs with
  | [] => failHere .endInString []
  | c :: rest =>
    match shortEscape? c with
    | some x => .ok (.one x c rest)
    | none =>
      if c = 'u' then (readUnit rest).map (Reading.behind c)
      else failNext .badEscape (c :: rest)

/-- The characters up to the closing quote, which is taken too. -/
def readChars (cs : List Char) : Except Fault (Reading (List Char) cs) :=
  match cs with
  | [] => failHere .endInString []
  | c :: rest =>
    if c = '"' then .ok ⟨[], rest, by simp⟩
    else if c = '\\' then
      match readEscape rest with
      | .error e => .error e
      | .ok x =>
        have : x.rest.length < rest.length := x.shorter
        match readChars x.rest with
        | .error e => .error e
        | .ok r => .ok ⟨x.value :: r.value, r.rest, by
            have := r.shorter; simp only [List.length_cons]; omega⟩
    else if c < ' ' then failNext .controlCharacter (c :: rest)
    else match readChars rest with
      | .error e => .error e
      | .ok r => .ok ⟨c :: r.value, r.rest, by
          have := r.shorter; simp only [List.length_cons]; omega⟩
termination_by cs.length

/-- The string whose opening quote has been taken. -/
def readString : Reader String := fun cs => (readChars cs).map (Reading.map String.ofList)

end Json
end SampleSchema

/-
  YAML texts as they are scanned.

  Before scanning, a text loses a byte order mark at its start, and each of its line breaks of the
  common kinds becomes a line feed; the two separators of lines and paragraphs stay what they are,
  but break lines too.  A text with a character that YAML does not admit is refused as a whole.

  A `Spot` is a place together with the text that follows it.  Moving over a character moves the
  place along.
-/
import SampleSchema.Text.Digits
import SampleSchema.Yaml.Fault

namespace SampleSchema
namespace Yaml

/-! ## Characters -/

/-- Does the character end a line?  (Line breaks are line feeds by now.) -/
def isBreak (c : Char) : Bool := c = '\n' || c = '\u2028' || c = '\u2029'

/-- Is the character a blank within a line? -/
def isBlank (c : Char) : Bool := c = ' ' || c = '\t'

/-- Is the text at its end, at a blank, or at a line break? -/
def atGap : List Char → Bool
  | [] => true
  | c :: _ => isBlank c || isBreak c

/-- Is the text at its end or at a line break? -/
def atLineEnd : List Char → Bool
  | [] => true
  | c :: _ => isBreak c

/-- Is the character one of those that names are made of? -/
def isNameChar (c : Char) : Bool := c.isAlphanum || c = '_' || c = '-'

/-- Does the text start with the marker between documents that consists of three `c`? -/
def startsMarker (c : Char) : List Char → Bool
  | x :: y :: z :: r => x = c && y = c && z = c && atGap r
  | _ => false

/-- Does the text start with a marker between documents? -/
def startsBoundary (cs : List Char) : Bool := startsMarker '-' cs || startsMarker '.' cs

/-! ## From the raw text -/

/-- Does YAML admit the character? -/
def isAdmitted (c : Char) : Bool :=
  c = '\t' || c = '\n' || c = '\r' || (' ' ≤ c && c ≤ '~') || c = '\u0085' ||
    ('\u00a0' ≤ c && c ≤ '\ufffd') || decide (0x10000 ≤ c.toNat)

/-- The bytes before the first character that YAML does not admit, `n` having been passed. -/
def firstUnadmitted? (n : Nat) : List Char → Option Nat
  | [] => none
  | c :: cs => if isAdmitted c then firstUnadmitted? (n + c.utf8Size) cs else some n

/-- Line breaks as line feeds. -/
def unifyBreaks : List Char → List Char
  | [] => []
  | '\r' :: '\n' :: cs => '\n' :: unifyBreaks cs
  | c :: cs => (if c = '\r' ∨ c = '\u0085' then '\n' else c) :: unifyBreaks cs

/-- The mark that some texts start with. -/
def byteOrderMark : Char := '\ufeff'

/-- The text without the mark at its start. -/
def dropByteOrderMark : List Char → List Char
  | [] => []
  | c :: cs => if c = byteOrderMark then cs else c :: cs

/-- The text to scan. -/
def scannable (text : String) : List Char := unifyBreaks (dropByteOrderMark text.toList)

/-! ## Places in a text -/

/-- The place after a character. -/
def Mark.after (m : Mark) (c : Char) : Mark := if isBreak c then m.newline else m.right

/-- A place and the text that follows it. -/
structure Spot where
  mark : Mark
  rest : List Char

namespace Spot

/-- Move over one character. -/
def next (s : Spot) : Spot :=
  match s.rest with
  | [] => s
  | c :: r => ⟨s.mark.after c, r⟩

/-- Is this the next character? -/
def startsWith (s : Spot) (c : Char) : Bool := s.rest.head? == some c

/-- The longest run of characters with a property, and the spot after it. -/
def spanFrom (p : Char → Bool) (m : Mark) : List Char → List Char × Spot
  | [] => ([], ⟨m, []⟩)
  | c :: r =>
    if p c then
      let (run, s) := spanFrom p (m.after c) r
      (c :: run, s)
    else ([], ⟨m, c :: r⟩)

/-- The longest run of characters with a property, and the spot after it. -/
def span (s : Spot) (p : Char → Bool) : List Char × Spot := spanFrom p s.mark s.rest

/-- Move over all characters with a property. -/
def skip (s : Spot) (p : Char → Bool) : Spot := (s.span p).2

/-- Move over blanks within the line. -/
def skipBlanks (s : Spot) : Spot := s.skip isBlank

/-- Move over a comment, if there is one. -/
def skipComment (s : Spot) : Spot := if s.startsWith '#' then s.skip (!isBreak ·) else s

/-- Move over the rest of a line that may only hold blanks and a comment; `none` when it holds
    more. -/
def endLine? (s : Spot) : Option Spot :=
  let t := s.skipBlanks.skipComment
  match t.rest with
  | [] => some t
  | c :: _ => if isBreak c then some t.next else none

end Spot

end Yaml
end SampleSchema

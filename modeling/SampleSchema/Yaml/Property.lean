/-
  Anchors, aliases, tags and directives.

  Names of anchors and handles of tags are made of letters, digits, `_` and `-`.  The text of a tag
  is made of the characters that addresses may have; an octet may be escaped by its number, and the
  escaped octets together have to have the form of UTF-8.
-/
import SampleSchema.Yaml.Gap
import SampleSchema.Yaml.Token

namespace SampleSchema
namespace Yaml

/-! ## Anchors and aliases -/

/-- May the text follow the name of an anchor? -/
def endsName : List Char → Bool
  | [] => true
  | c :: r => atGap (c :: r) || "?:,]\x7d%@`".toList.contains c

/-- The name behind `&` or `*`, which stands at `s`. -/
def readName (activity : Activity) (s : Spot) : Except Fault (String × Spot) :=
  let (name, t) := s.next.span isNameChar
  if name.isEmpty || !endsName t.rest then fail .nameMissing t.mark activity s.mark
  else .ok (String.ofList name, t)

/-! ## Tags -/

/-- May the character stand in the text of a tag?  Commas and brackets may where the whole text is
    between angles, and in directives. -/
def isTagChar (isWhole : Bool) (c : Char) : Bool :=
  isNameChar c || ";/?:@&=+$.!~*'()".toList.contains c || (isWhole && ",[]".toList.contains c)

/-- How many octets follow this one in the UTF-8 form of a character. -/
def trailingOctets? (n : Nat) : Option Nat :=
  if n < 0x80 then some 0
  else if 0xC0 ≤ n ∧ n < 0xE0 then some 1
  else if 0xE0 ≤ n ∧ n < 0xF0 then some 2
  else if 0xF0 ≤ n ∧ n < 0xF8 then some 3
  else none

/-- The text of a tag; `awaited` octets are still to come, and an octet is kept as the character
    with its number. -/
def readTagText (isWhole : Bool) (activity : Activity) (start : Mark) (awaited : Nat) (m : Mark) :
    List Char → Except Fault Run
  | '%' :: a :: b :: r =>
    match hexValue? a, hexValue? b with
    | some x, some y =>
      let n := 16 * x + y
      let awaited? := if awaited = 0 then trailingOctets? n
        else if 0x80 ≤ n ∧ n < 0xC0 then some (awaited - 1) else none
      match awaited? with
      | some k =>
        (readTagText isWhole activity start k m.right.right.right r).map
          (Run.prepend [Char.ofNat n])
      | none =>
        fail (if awaited = 0 then .octetNotLeading else .octetNotTrailing) m activity start
    | _, _ => fail .octetMissing m activity start
  | [] => if awaited = 0 then .ok ⟨[], m, []⟩ else fail .octetMissing m activity start
  | c :: r =>
    if awaited ≠ 0 ∨ c = '%' then fail .octetMissing m activity start
    else if isTagChar isWhole c then
      (readTagText isWhole activity start 0 m.right r).map (Run.prepend [c])
    else .ok ⟨[], m, c :: r⟩

/-- The text of a tag that starts with `head` and may not be empty. -/
def readTagTextFrom (head : List Char) (isWhole : Bool) (activity : Activity) (start : Mark)
    (isMissing : Bool) (s : Spot) : Except Fault (String × Spot) := do
  let r ← readTagText isWhole activity start 0 s.mark s.rest
  if isMissing && r.text.isEmpty then fail .tagMissing r.after.mark activity start
  else return (String.ofList (head ++ r.text), r.after)

/-- An exclamation mark, name characters, and another exclamation mark if there is one. -/
def readHandle (start : Mark) (activity : Activity) (s : Spot) : Except Fault (List Char × Spot) :=
  if s.startsWith '!' then
    let (name, t) := s.next.span isNameChar
    if t.startsWith '!' then .ok ('!' :: name ++ ['!'], t.next) else .ok ('!' :: name, t)
  else fail .exclamationMissing s.mark activity start

/-- Does the text have an exclamation mark at both ends? -/
def isHandle (cs : List Char) : Bool := decide (2 ≤ cs.length) && cs.getLast? == some '!'

/-- The tag at `s`, up to its end. -/
def readTagName (s : Spot) : Except Fault (TagName × Spot) := do
  if s.next.startsWith '<' then
    let (text, t) ← readTagTextFrom [] true .tagText s.mark true s.next.next
    if t.startsWith '>' then return (⟨"", text⟩, t.next)
    else fail .angleMissing t.mark .tag s.mark
  else
    let (handle, t) ← readHandle s.mark .tag s
    if isHandle handle then
      let (text, t) ← readTagTextFrom [] false .tagText s.mark true t
      return (⟨String.ofList handle, text⟩, t)
    else
      let (text, t) ← readTagTextFrom (handle.drop 1) false .tagText s.mark false t
      return (if text.isEmpty then ⟨"", "!"⟩ else ⟨"!", text⟩, t)

/-- The tag at `s`, which a gap has to follow, or a comma in flow context. -/
def readTag (inFlow : Bool) (s : Spot) : Except Fault (TagName × Spot) := do
  let (name, t) ← readTagName s
  if atGap t.rest || (inFlow && t.startsWith ',') then return (name, t)
  else fail .blankOrBreakMissing t.mark .tag s.mark

/-! ## Directives -/

/-- How many digits a part of a version may have. -/
def longestVersion : Nat := 9

/-- A part of a version. -/
def readVersionPart (start : Mark) (s : Spot) : Except Fault (Nat × Spot) :=
  let (digits, t) := s.span Char.isDigit
  if longestVersion < digits.length then
    fail .versionTooLong ⟨s.mark.line, s.mark.column + longestVersion⟩ .versionDirective start
  else
    match natOf? 10 digits with
    | none => fail .versionMissing s.mark .versionDirective start
    | some n => .ok (n, t)

/-- Two numbers with a point between them. -/
def readVersion (start : Mark) (s : Spot) : Except Fault (TokenKind × Spot) := do
  let (major, t) ← readVersionPart start s.skipBlanks
  if t.startsWith '.' then
    let (minor, t) ← readVersionPart start t.next
    return (.version major minor, t)
  else fail .versionBroken t.mark .versionDirective start

/-- A handle and what it stands for. -/
def readTagDirective (start : Mark) (s : Spot) : Except Fault (TokenKind × Spot) := do
  let (handle, t) ← readHandle start .tagDirectiveMark s.skipBlanks
  if !isHandle handle && decide (handle ≠ ['!']) then
    fail .exclamationMissing t.mark .tagDirectiveHandle start
  else if !(t.rest.head?.map isBlank).getD false then
    fail .blankMissing t.mark .tagDirective start
  else
    let (text, t) ← readTagTextFrom [] true .tagDirectiveText start true t.skipBlanks
    if atGap t.rest then return (.tagHandle (String.ofList handle) text, t)
    else fail .blankOrBreakMissing t.mark .tagDirective start

/-- The directive at `s`, with its line. -/
def readDirective (s : Spot) : Except Fault (TokenKind × Spot) := do
  let (name, t) := s.next.span isNameChar
  if name.isEmpty then fail .directiveNameMissing t.mark .directive s.mark
  else if !atGap t.rest then fail .directiveNameBroken t.mark .directive s.mark
  else
    let (kind, t) ←
      if name = "YAML".toList then readVersion s.mark t
      else if name = "TAG".toList then readTagDirective s.mark t
      else fail .directiveUnknown t.mark .directive s.mark
    match t.endLine? with
    | some u => return (kind, u)
    | none => fail .lineEndMissing (t.skipBlanks.skipComment).mark .directive s.mark

end Yaml
end SampleSchema

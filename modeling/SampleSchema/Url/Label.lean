/-
  Host names beyond ASCII.

  A name is folded (case, width and other variants of a character go to one form, some characters
  vanish, some are refused), composed, and cut into labels at its points.  A label in ASCII form is
  decoded, and what comes out has to be a label that folding and composing leave alone.  Each label
  has to obey the rules of its script: no mark at its start, joiners only where letters connect or a
  vowel is suppressed, and, in a name that has a part written from right to left, one direction per
  label.

  `Name.labels?` is the whole check.  It returns the labels as they are compared, with the ASCII
  form of those that were given in it.
-/
import SampleSchema.Text.Normal
import SampleSchema.Url.FoldTable
import SampleSchema.Url.Punycode
import SampleSchema.Url.ScriptTable

namespace SampleSchema
namespace Name

/-- ASCII characters that no host name may hold: controls, blanks and the delimiters of a URL. -/
def isDelimiter (c : Char) : Bool :=
  c ≤ ' ' || c = '\x7f' || "%#/:<>?@[\\]^|".toList.contains c

/-- What a character becomes: nothing, itself or its replacement; `none` if it is refused. -/
def foldChar (c : Char) : Option (List Char) :=
  if foldRefused.contains c then none
  else if foldIgnored.contains c then some []
  else match foldReplacements.shifted? c with
    | some cs => some cs
    | none => some [c]

/-- The folded and composed text. -/
def fold (cs : List Char) : Option (List Char) :=
  (cs.mapM foldChar).map fun parts => Normal.compose parts.flatten

/-- Is the text the same after folding? -/
def isFolded (cs : List Char) : Bool := fold cs = some cs

/-! ## Rules for one label -/

def isAscii (cs : List Char) : Bool := cs.all fun c => c.toNat < 128

/-- The mark of the ASCII form. -/
def asciiMark : List Char := ['x', 'n', '-', '-']

/-- Does the text before a joiner, in reverse, end with a letter that connects onward? -/
def connectsBefore (before : List Char) : Bool :=
  match before.dropWhile joinsThrough.contains with
  | c :: _ => joinsAfter.contains c
  | [] => false

/-- Does the text after a joiner start with a letter that connects backward? -/
def connectsAfter (after : List Char) : Bool :=
  match after.dropWhile joinsThrough.contains with
  | c :: _ => joinsBefore.contains c
  | [] => false

/-- Is every joiner in its place?  `before` is the label up to here, in reverse. -/
def joinersFit (before : List Char) : List Char → Bool
  | [] => true
  | c :: after =>
    let vowelSuppressed := match before with
      | b :: _ => viramas.contains b
      | [] => false
    (if c = '\u200c' then vowelSuppressed || (connectsBefore before && connectsAfter after)
     else if c = '\u200d' then vowelSuppressed
     else true)
    && joinersFit (c :: before) after

/-- Longer labels are not looked at. -/
def longestLabel : Nat := 1000

/-- May a label consist of these characters? -/
def isLabel (cs : List Char) : Bool :=
  cs.all (fun c => !isDelimiter c)
  && (isAscii cs
      || (decide (cs.length ≤ longestLabel)
          && !asciiMark.isPrefixOf cs
          && !(cs.head?.map marks.contains).getD false
          && joinersFit [] cs))

/-- What a label stands for, once its ASCII form is resolved. -/
def resolve (label : List Char) : Option (List Char) :=
  if asciiMark.isPrefixOf label then
    if isAscii label then
      match Punycode.decode (label.drop 4) with
      | none => none
      | some cs => if !isAscii cs && isFolded cs && isLabel cs then some cs else none
    else none
  else if isLabel label then some label
  else none

/-! ## Direction -/

/-- The direction class of a character, as far as labels are concerned. -/
inductive Direction where
  | leftward | rightward | arabicNumber | europeanNumber | nonspacing | neutral
  deriving DecidableEq

/-- The direction class of a character. -/
def directionOf (c : Char) : Direction :=
  if rightToLeft.contains c then .leftward
  else if arabicNumbers.contains c then .arabicNumber
  else if europeanNumbers.contains c then .europeanNumber
  else if nonspacing.contains c then .nonspacing
  else if neutrals.contains c then .neutral
  else .rightward

/-- Does the character make its name one with parts from right to left? -/
def turns (c : Char) : Bool :=
  match directionOf c with
  | .leftward | .arabicNumber => true
  | _ => false

/-- May a label of a right-to-left script consist of these classes? -/
def fitsLeftward (ds : List Direction) : Bool :=
  ds.all (· ≠ .rightward)
  && (match (ds.reverse.dropWhile (· = .nonspacing)).head? with
      | some .leftward | some .europeanNumber | some .arabicNumber => true
      | _ => false)
  && !(ds.contains .europeanNumber && ds.contains .arabicNumber)

/-- May a label of a left-to-right script consist of these classes? -/
def fitsRightward (ds : List Direction) : Bool :=
  ds.all (fun d => d ≠ .leftward && d ≠ .arabicNumber)
  && (match (ds.reverse.dropWhile (· = .nonspacing)).head? with
      | some .rightward | some .europeanNumber => true
      | _ => false)

/-- Does a label keep to one direction? -/
def keepsDirection (label : List Char) : Bool :=
  let ds := label.map directionOf
  match ds with
  | [] => true
  | .leftward :: _ => fitsLeftward ds
  | .rightward :: _ => fitsRightward ds
  | _ => false

/-! ## The whole name -/

/-- The labels of a host name, or `none` if it is no host name. -/
def labels? (name : List Char) : Option (List (List Char)) :=
  match fold name with
  | none => none
  | some folded =>
    let labels := splitAtChar '.' folded
    match labels.mapM resolve with
    | none => none
    | some resolved =>
      if resolved.flatten.any turns && !resolved.all keepsDirection then none else some labels

end Name
end SampleSchema

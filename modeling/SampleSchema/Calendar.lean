/-
  Dates and times in their written form.

  A date is `YYYY-MM-DD`.  A date with a time goes on with the letter `T` and `HH:MM:SS`, and then
  optionally with a fraction of a second and with the distance from universal time.  Whether a text
  is one or the other is decided twice, and both have to agree:

  * An OUTLINE says where digits stand and which marks stand between them.  It takes the digits of
    any script.  A date has to follow its outline to the end, a date with a time as far as the
    outline goes.

  * A READER of the calendar makes numbers of the fields and asks for a day and a time that exist.
    It takes ASCII digits only, and there are two of them.  The FREE reader is lenient on how fields
    are written: they may be short and have white space before them, and a year may have a sign.
    It knows no distance from universal time.  The STRICT reader is not lenient, asks for this
    distance, and has other marks than `T` between date and time.

  Each reader below takes one part from the start of a text and returns what is left, or `none`
  where the part is not there.
-/
import SampleSchema.Text.CharClass
import SampleSchema.Text.Digits

namespace SampleSchema
namespace Calendar

/-! ## Outlines -/

/-- What stands at one place of an outline. -/
inductive Place where
  | digit
  | mark (m : Char)

/-- Does the character fit the place? -/
def Place.admits : Place → Char → Bool
  | digit, c => isDecimal c
  | mark m, c => c = m

/-- Pass what follows an outline. -/
def readOutline : List Place → List Char → Option (List Char)
  | [], cs => some cs
  | _ :: _, [] => none
  | p :: ps, c :: cs => if p.admits c then readOutline ps cs else none

/-- Three fields with marks between them, the first one of `n` digits and the others of two. -/
def fieldsOutline (n : Nat) (m : Char) : List Place :=
  List.replicate n .digit ++ .mark m :: (List.replicate 2 .digit ++ .mark m ::
    List.replicate 2 .digit)

/-- The outline of a date. -/
def dateOutline : List Place := fieldsOutline 4 '-'

/-- The outline of a date with a time, up to the seconds. -/
def dateTimeOutline : List Place := dateOutline ++ .mark 'T' :: fieldsOutline 2 ':'

/-! ## Days and times that exist -/

/-- Has the year a 29th of February? -/
def isLeapYear (y : Int) : Bool := y % 4 = 0 && (y % 100 ≠ 0 || y % 400 = 0)

/-- The number of days of a month; zero for what is no month. -/
def daysInMonth (y : Int) (m : Nat) : Nat :=
  match m with
  | 1 | 3 | 5 | 7 | 8 | 10 | 12 => 31
  | 4 | 6 | 9 | 11 => 30
  | 2 => if isLeapYear y then 29 else 28
  | _ => 0

/-- The first year of the calendar. -/
def firstYear : Int := -262143

/-- The last year of the calendar. -/
def lastYear : Int := 262142

/-- Is there such a day? -/
def isDay (year : Int) (month day : Nat) : Bool :=
  decide (firstYear ≤ year ∧ year ≤ lastYear ∧ 1 ≤ day ∧ day ≤ daysInMonth year month)

/-- Is there such a time of day?  A minute may have a sixty-first second. -/
def isTime (hour minute second : Nat) : Bool := decide (hour ≤ 23 ∧ minute ≤ 59 ∧ second ≤ 60)

/-! ## Fields -/

/-- The number that ASCII digits spell: all of those at the start of the text, but `most` at most,
    and there have to be `least` of them. -/
def readNumber (least most : Nat) (cs : List Char) : Option (Nat × List Char) :=
  let ds := (cs.take most).takeWhile Char.isDigit
  if least ≤ ds.length then some (decimalValue ds, cs.drop ds.length) else none

/-- A field as the free reader takes it: white space, and then up to `most` digits. -/
def readField (most : Nat) (cs : List Char) : Option (Nat × List Char) :=
  readNumber 1 most (cs.dropWhile isWhiteSpace)

/-- A year as the free reader takes it: a field of four digits, or a sign and any number of
    digits. -/
def readYear (cs : List Char) : Option (Int × List Char) :=
  match cs.dropWhile isWhiteSpace with
  | [] => none
  | c :: cs =>
    if c = '-' then (readNumber 1 cs.length cs).map fun r => (-(r.1 : Int), r.2)
    else if c = '+' then (readNumber 1 cs.length cs).map fun r => ((r.1 : Int), r.2)
    else (readNumber 1 4 (c :: cs)).map fun r => ((r.1 : Int), r.2)

/-- A given character. -/
def readMark (m : Char) : List Char → Option (List Char)
  | [] => none
  | c :: cs => if c = m then some cs else none

/-- Three fields with marks between them, of which something is asked. -/
def readFields {α : Type} (first : List Char → Option (α × List Char))
    (next : List Char → Option (Nat × List Char)) (m : Char) (p : α → Nat → Nat → Bool)
    (cs : List Char) : Option (List Char) := do
  let (a, cs) ← first cs
  let cs ← readMark m cs
  let (b, cs) ← next cs
  let cs ← readMark m cs
  let (c, cs) ← next cs
  if p a b c then some cs else none

/-- A point and at least one digit, where the text starts with a point. -/
def readFraction : List Char → Option (List Char)
  | '.' :: c :: cs => if c.isDigit then some (cs.dropWhile Char.isDigit) else none
  | ['.'] => none
  | cs => some cs

/-! ## The free reader -/

/-- A day. -/
def readFreeDate : List Char → Option (List Char) := readFields readYear (readField 2) '-' isDay

/-- A time of day. -/
def readFreeTime : List Char → Option (List Char) :=
  readFields (readField 2) (readField 2) ':' isTime

/-- Is the whole text a day with a time, and maybe with a fraction of a second? -/
def isLocalTime (cs : List Char) : Bool :=
  (((readFreeDate cs).bind (readMark 'T')).bind readFreeTime).bind readFraction = some []

/-! ## The strict reader -/

/-- A day. -/
def readDate : List Char → Option (List Char) :=
  readFields (readNumber 4 4) (readNumber 2 2) '-' fun year month day => isDay year month day

/-- A time of day. -/
def readTime : List Char → Option (List Char) :=
  readFields (readNumber 2 2) (readNumber 2 2) ':' isTime

/-- What stands between date and time. -/
def readSeparator : List Char → Option (List Char)
  | [] => none
  | c :: cs => if c = 'T' ∨ c = 't' ∨ c = ' ' then some cs else none

/-- Is this the sign of a distance from universal time?  The minus sign has two forms. -/
def isSign (c : Char) : Bool := c = '+' || c = '-' || c = '\u2212'

/-- Is the whole text a distance from universal time? -/
def isOffset : List Char → Bool
  | [] => false
  | c :: cs =>
    if c = 'Z' ∨ c = 'z' then cs.isEmpty
    else if isSign c then
      match readNumber 2 2 cs with
      | none => false
      | some (hours, cs) =>
        match (readMark ':' cs).bind (readNumber 2 2) with
        | some (minutes, []) => decide (hours ≤ 23) && decide (minutes ≤ 59)
        | _ => false
    else false

/-- Is the whole text a day with a time, maybe a fraction of a second, and the distance from
    universal time? -/
def isZonedTime (cs : List Char) : Bool :=
  match (((readDate cs).bind readSeparator).bind readTime).bind readFraction with
  | some rest => isOffset rest
  | none => false

/-! ## Dates, and dates with a time -/

/-- Is the whole text a date? -/
def isDate (s : String) : Bool :=
  readOutline dateOutline s.toList = some [] && readFreeDate s.toList = some []

/-- Is the whole text a date with a time? -/
def isDateTime (s : String) : Bool :=
  (readOutline dateTimeOutline s.toList).isSome && (isZonedTime s.toList || isLocalTime s.toList)

end Calendar
end SampleSchema

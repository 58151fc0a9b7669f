/-
  Formats of strings.

  Each format has a detector that looks at the whole string.  `Format.detect` asks those that are
  switched on, in a fixed order, and the first one that says yes decides.
-/
import SampleSchema.Calendar
import SampleSchema.Schema.Basic
import SampleSchema.Settings.Basic
import SampleSchema.Url.Basic

namespace SampleSchema
namespace Format

/-- Does the text have a sign and a point as mail addresses have them? -/
def isEmail (s : String) : Bool := s.toList.contains '@' && s.toList.contains '.'

/-- Does the text look like this format? -/
def matchesText (f : Format) (s : String) : Bool :=
  match f with
  | uri => Url.isAbsolute s
  | email => isEmail s
  | date => Calendar.isDate s
  | dateTime => Calendar.isDateTime s

/-- Is the detector of a format switched on? -/
def enabled (t : Toggles) : Format → Bool
  | uri => t.uri
  | email => t.email
  | date => t.date
  | dateTime => t.dateTime

/-- The first format that is switched on and matches. -/
def detect (t : Toggles) (s : String) : Option Format :=
  all.find? fun f => enabled t f && matchesText f s

end Format
end SampleSchema

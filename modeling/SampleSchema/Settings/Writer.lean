/-
  Settings as texts.

  Settings are written with all their keys, in one order, as JSON on one line or as YAML with one
  key a line.  Both are texts that can be read as settings.
-/
import SampleSchema.Json.Writer
import SampleSchema.Settings.Basic

namespace SampleSchema

namespace Toggles

/-- The switches by name. -/
def entries (t : Toggles) : List (String × Bool) :=
  [("uri", t.uri), ("email", t.email), ("date", t.date), ("date-time", t.dateTime)]

end Toggles

namespace Settings

/-- The settings as a JSON value. -/
def toJson (s : Settings) : Json :=
  .object [("max_depth", .number (.whole s.maxDepth)),
    ("formats", .object (s.formats.entries.map fun e => (e.1, .bool e.2)))]

/-- The settings as JSON on one line. -/
def toJsonText (s : Settings) : String := s.toJson.write .compact

/-- A line that sets a switch. -/
def switchLine (e : String × Bool) : String :=
  "  " ++ e.1 ++ ": " ++ (if e.2 then "true" else "false") ++ "\n"

/-- The settings as YAML. -/
def toYamlText (s : Settings) : String :=
  "max_depth: " ++ toString s.maxDepth ++ "\nformats:\n"
    ++ String.join (s.formats.entries.map switchLine)

end Settings
end SampleSchema

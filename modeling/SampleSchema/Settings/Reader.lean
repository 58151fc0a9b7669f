/-
  Settings from YAML texts.

  A text holds a record with the limit and the switches, each of which may be left out.  Unknown and
  repeated keys are refused.  The switch of date-times has a second spelling.  A limit of zero can
  be written, but settings that have it are not accepted.
-/
import SampleSchema.Failure
import SampleSchema.Settings.Basic
import SampleSchema.Schema.Basic
import SampleSchema.Yaml.Reading

namespace SampleSchema
namespace Settings

/-- The settings, unless they could not be honoured. -/
def validate (s : Settings) : Except Failure Settings :=
  if s.maxDepth = 0 then .error (.badSetting "max_depth" "must be at least 1") else .ok s

theorem validate_eq_ok_iff {s t : Settings} : s.validate = .ok t ↔ s.maxDepth ≠ 0 ∧ s = t := by
  unfold validate
  split
  · next hzero => simp [hzero]
  · next hzero => simp [hzero]

theorem validate_eq_error_iff {s : Settings} {f : Failure} : s.validate = .error f ↔
    s.maxDepth = 0 ∧ .badSetting "max_depth" "must be at least 1" = f := by
  unfold validate
  split
  · next hzero => simp [hzero]
  · next hzero => simp [hzero]

/-- The switch of a format. -/
def setToggle (t : Toggles) (b : Bool) : Format → Toggles
  | .uri => { t with uri := b }
  | .email => { t with email := b }
  | .date => { t with date := b }
  | .dateTime => { t with dateTime := b }

/-- The record of switches. -/
def togglesType : Yaml.RecordType Format Toggles where
  expected := "struct FormatDetection"
  spellings := Format.all.map Format.name ++ ["date_time"]
  key? s := if s = "date_time" then some .dateTime else Format.ofName? s
  name := Format.name
  readValue f t := fun d path nodes => do
    let (b, rest) ← Yaml.readBoolean d path nodes
    .ok (setToggle t b f, rest)

/-- The keys of the settings. -/
inductive Key where
  | maxDepth | formats
  deriving DecidableEq, Repr

namespace Key

def all : List Key := [maxDepth, formats]

def name : Key → String
  | maxDepth => "max_depth"
  | formats => "formats"

/-- The key that is spelled this way. -/
def ofName? (s : String) : Option Key := all.find? (·.name = s)

theorem ofName?_name (k : Key) : ofName? k.name = some k := by cases k <;> decide

end Key

/-- The record of settings. -/
def settingsType : Yaml.RecordType Key Settings where
  expected := "struct InferenceConfig"
  spellings := Key.all.map Key.name
  key? := Key.ofName?
  name := Key.name
  readValue k s := fun d path nodes => do
    match k with
    | .maxDepth =>
      let (n, rest) ← Yaml.readNatural d path nodes
      .ok ({ s with maxDepth := n }, rest)
    | .formats =>
      let (t, rest) ← togglesType.read {} d path nodes
      .ok ({ s with formats := t }, rest)

/-- The settings that a text holds, be they valid or not, or what is wrong with the text. -/
def read (text : String) : Except String Settings :=
  match Yaml.readText (settingsType.read {}) text with
  | .ok s => .ok s
  | .error p => .error p.describe

/-- The settings that a text holds, if they are valid. -/
def parse (text : String) : Except Failure Settings :=
  match read text with
  | .ok s => s.validate
  | .error detail => .error (.badYaml detail)

end Settings
end SampleSchema

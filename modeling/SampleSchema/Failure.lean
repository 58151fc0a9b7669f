/-
  What can go wrong around inference.

  Inference itself never fails.  Reading samples, reading settings and writing schemas can, and each
  way of failing is a case of its own; the words are in `Failure.message`.  Some failures pass on
  the words of the part that failed (`Failure.origin?`).  Adding context puts words in front and
  keeps nothing else.
-/

namespace SampleSchema

inductive Failure where
  /-- A sample could not be read at all. -/
  | sampleUnreadable (path reason : String)
  /-- A sample is not JSON. -/
  | sampleMalformed (path detail : String)
  /-- Settings are not usable. -/
  | badSettings (message : String)
  /-- One setting has a value that cannot be honoured. -/
  | badSetting (field message : String)
  /-- A text is not the YAML of settings. -/
  | badYaml (detail : String)
  /-- A text is not the JSON that was wanted. -/
  | badJson (detail : String)
  /-- A file could not be written. -/
  | inputOutput (reason : String)
  /-- Settings could not be read from a file. -/
  | fileNotFound (path : String)
  | other (message : String)
  deriving DecidableEq, Repr

namespace Failure

/-- A failure in words. -/
def message : Failure → String
  | sampleUnreadable path reason => "Cannot read sample '" ++ path ++ "': " ++ reason
  | sampleMalformed path detail => "Invalid JSON input in '" ++ path ++ "': " ++ detail
  | badSettings message => "Configuration error: " ++ message
  | badSetting field message => "Invalid config value for '" ++ field ++ "': " ++ message
  | badYaml detail => "Failed to parse YAML: " ++ detail
  | badJson detail => "Failed to parse JSON: " ++ detail
  | inputOutput reason => "IO error: " ++ reason
  | fileNotFound path => "File not found: " ++ path
  | other message => message

/-- The words of the part that failed, where a failure passes them on. -/
def origin? : Failure → Option String
  | sampleUnreadable _ reason => some reason
  | sampleMalformed _ detail => some detail
  | badYaml detail => some detail
  | badJson detail => some detail
  | inputOutput reason => some reason
  | badSettings _ | badSetting .. | fileNotFound _ | other _ => none

/-- Put words in front. -/
def withContext (f : Failure) (context : String) : Failure := other (context ++ ": " ++ f.message)

end Failure
end SampleSchema

/-
  What the library reports while it works.

  An event is a value; its level, its message and its fields are read off it.  Inference returns the
  events in the order in which they arose, beside its result, so that two runs can be compared on
  both.
-/
import SampleSchema.Schema.Unify

namespace SampleSchema

/-- How much an event matters. -/
inductive Level where
  | trace | debug | info | warn
  deriving DecidableEq, Repr

/-- The spelling of a level. -/
def Level.name : Level → String
  | .trace => "TRACE"
  | .debug => "DEBUG"
  | .info => "INFO"
  | .warn => "WARN"

/-- Something worth reporting. -/
inductive Event where
  /-- A whole inference is finished; its schema has this type and is or is not a choice. -/
  | inferred (kind : Option Kind) (isChoice : Bool)
  /-- A container stood at the depth limit and was not opened. -/
  | tooDeep (kind : Kind) (depth limit : Nat)
  /-- A container was met inside itself and was not opened again. -/
  | cyclic (kind : Kind) (depth : Nat)
  /-- Siblings had more than one type. -/
  | disagreed (d : Schema.Disagreement)
  /-- The schema of one sample file is known. -/
  | sampleDone (path : String)
  /-- The schemas of this many sample files are about to become one. -/
  | unifying (count : Nat)
  /-- A schema was written to a file. -/
  | wrote (path : String)
  /-- Settings are about to be read from a file. -/
  | loading (path : String)
  deriving DecidableEq, Repr

namespace Event

def level : Event → Level
  | inferred .. | loading .. => .debug
  | tooDeep .. => .warn
  | cyclic .. | disagreed .. => .trace
  | sampleDone .. | unifying .. | wrote .. => .info

def message : Event → String
  | inferred .. => "inferred schema"
  | tooDeep kind .. => kind.name ++ " nested too deeply, not descending"
  | cyclic kind _ => "cyclic " ++ kind.name ++ " reference, not descending"
  | disagreed _ => "item types disagree, emitting anyOf"
  | sampleDone path => "Inferred schema from " ++ path
  | unifying count => "Unifying " ++ toString count ++ " sample schemas"
  | wrote path => "Wrote schema to " ++ path
  | loading path => "Loading inference config from " ++ path

/-- The fields of an event, as text by name. -/
def fields : Event → List (String × String)
  | inferred kind isChoice =>
    [("json_type", match kind with
      | none => "None"
      | some k => "Some(" ++ k.title ++ ")"),
     ("any_of", if isChoice then "true" else "false")]
  | tooDeep _ depth limit => [("depth", toString depth), ("max_depth", toString limit)]
  | cyclic _ depth => [("depth", toString depth)]
  | disagreed d => [("count", toString d.count), ("distinct", toString d.distinct)]
  | sampleDone _ | unifying _ | wrote _ | loading _ => []

end Event
end SampleSchema

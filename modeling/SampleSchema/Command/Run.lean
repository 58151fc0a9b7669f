/-
  What a command does.

  A command goes through its steps in one order: read the settings, override them and check them,
  read and infer the samples as they are listed, make their schemas one, write the schema.  The
  first step that fails ends it.  All reading comes before the only write, so a command that fails
  changes nothing, and a command may write over a file that it has read.

  `Command.evaluate` is the part that reads; it sees files through a function from paths to texts,
  so that a store and the files of a machine serve alike.  `Command.run` adds the write, in a store.
  Beside its result a step gives the events that it reported.
-/
import SampleSchema.Command.Basic
import SampleSchema.Files
import SampleSchema.Inference
import SampleSchema.Json.Reader
import SampleSchema.Schema.Document
import SampleSchema.Settings.Reader

namespace SampleSchema

/-- The text of each file that can be read. -/
abbrev FileReader := String → Except Denial String

/-- The name that stands for standard input among samples. -/
def standardInput : String := "-"

namespace Settings

/-- The settings in a file. -/
def load (read : FileReader) (path : String) : Except Failure Settings :=
  match read path with
  | .error d => .error (.fileNotFound (path ++ ": " ++ d.message))
  | .ok text => parse text

end Settings

namespace Options

/-- Settings with what the options override. -/
def override (o : Options) (s : Settings) : Settings where
  maxDepth := o.maxDepth.getD s.maxDepth
  formats := if o.noFormats then .none else s.formats

/-- The settings that the options ask for. -/
def settings (o : Options) (read : FileReader) : Except Failure Settings :=
  match o.config with
  | none => (o.override {}).validate
  | some path =>
    match Settings.load read path with
    | .error f => .error f
    | .ok s => (o.override s).validate

end Options

/-- The sample that a text holds. -/
def readSample (path : String) (text : Except Denial String) : Except Failure Json :=
  match text with
  | .error d => .error (.sampleUnreadable path d.message)
  | .ok text =>
    match Json.parse text with
    | .ok v => .ok v
    | .error detail => .error (.sampleMalformed path detail)

/-- What came of some steps, and the events that they reported. -/
structure Evaluation (α : Type) where
  log : List Event
  result : Except Failure α

namespace Evaluation

variable {α β : Type}

/-- Put events in front. -/
def after (es : List Event) (x : Evaluation α) : Evaluation α := ⟨es ++ x.log, x.result⟩

/-- Go on with the result, if there is one. -/
def andThen (x : Evaluation α) (f : α → Evaluation β) : Evaluation β :=
  match x.result with
  | .error e => ⟨x.log, .error e⟩
  | .ok v => (f v).after x.log

end Evaluation

/-- The schema of the sample at a path, whose text is given. -/
def inferFile (s : Settings) (path : String) (text : Except Denial String) : Evaluation Schema :=
  match readSample path text with
  | .error f => ⟨[], .error f⟩
  | .ok v =>
    let r := inferJson s v
    ⟨r.log ++ [.sampleDone path], .ok r.schema⟩

/-- Where samples come from: files, and standard input, which is empty once it has been read. -/
structure Sources where
  read : FileReader
  input : Except Denial String

namespace Sources

/-- The text of a sample. -/
def textOf (src : Sources) (path : String) : Except Denial String :=
  if path = standardInput then src.input else src.read path

/-- What is left once a sample has been read. -/
def without (src : Sources) (path : String) : Sources :=
  if path = standardInput then { src with input := .ok "" } else src

end Sources

/-- The schemas of samples in their order. -/
def inferFiles (s : Settings) (src : Sources) : List String → Evaluation (List Schema)
  | [] => ⟨[], .ok []⟩
  | path :: paths =>
    (inferFile s path (src.textOf path)).andThen fun schema =>
      (inferFiles s (src.without path) paths).andThen fun schemas => ⟨[], .ok (schema :: schemas)⟩

namespace Task

/-- The schema that a task comes to. -/
def evaluate (s : Settings) (src : Sources) : Task → Evaluation Schema
  | infer path => inferFile s path (src.textOf path)
  | unify paths => (inferFiles s src paths).andThen fun schemas =>
    ⟨.unifying schemas.length :: (Schema.disagreement? schemas).toList.map .disagreed,
      .ok (Schema.unify schemas)⟩

end Task

namespace Command

/-- The settings of a command, and the event that says where they come from. -/
def loadSettings (c : Command) (read : FileReader) : Evaluation Settings where
  log := c.options.config.toList.map .loading
  result := c.options.settings read

/-- The text of the schema that a command comes to. -/
def evaluate (c : Command) (src : Sources) : Evaluation String :=
  ((c.loadSettings src.read).andThen fun s => c.task.evaluate s src).andThen fun schema =>
    ⟨[], .ok (schema.write c.options.chosenLayout ++ "\n")⟩

/-- What a command leaves behind: files, what it printed, events, and its failure if it failed. -/
structure Outcome where
  files : Files
  printed : String
  log : List Event
  failure : Option Failure

/-- Run a command on a store. -/
def run (c : Command) (files : Files) (input : Except Denial String) : Outcome :=
  let e := c.evaluate ⟨files.read, input⟩
  match e.result with
  | .error f => ⟨files, "", e.log, some f⟩
  | .ok text =>
    match c.options.output with
    | none => ⟨files, text, e.log, none⟩
    | some path =>
      match files.write path text with
      | .error d => ⟨files, "", e.log, some (.inputOutput d.message)⟩
      | .ok files => ⟨files, "", e.log ++ [.wrote path], none⟩

/-- The line that standard error gets for a failure. -/
def errorLine (f : Failure) : String := "Error: " ++ f.message

/-- The code with which the program ends after a command. -/
def Outcome.exitCode (o : Outcome) : Nat := if o.failure.isSome then 1 else 0

end Command
end SampleSchema

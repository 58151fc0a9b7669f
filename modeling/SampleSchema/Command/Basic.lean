/-
  What the program can be asked to do.

  A command infers the schema of one sample, or of several that become one.  The options say where
  settings come from, what overrides them, and how and where the schema is written.
-/
import SampleSchema.Json.Writer

namespace SampleSchema

/-- The options, as far as they are given. -/
structure Options where
  /-- The file that settings are read from. -/
  config : Option String := none
  /-- The limit on depth that holds instead of the one in the settings. -/
  maxDepth : Option Nat := none
  /-- Should no format be looked for? -/
  noFormats : Bool := false
  layout : Option Layout := none
  /-- The file that the schema is written to. -/
  output : Option String := none
  /-- Should more be reported? -/
  verbose : Bool := false
  deriving DecidableEq, Repr

namespace Options

/-- Options from two places, the second one being decisive. -/
def merge (outer inner : Options) : Options where
  config := inner.config.or outer.config
  maxDepth := inner.maxDepth.or outer.maxDepth
  noFormats := inner.noFormats || outer.noFormats
  layout := inner.layout.or outer.layout
  output := inner.output.or outer.output
  verbose := inner.verbose || outer.verbose

/-- The layout that holds unless another one is given. -/
def chosenLayout (o : Options) : Layout := o.layout.getD .indented

end Options

/-- The samples that a command works on. -/
inductive Task where
  /-- Infer the schema of a sample. -/
  | infer (file : String)
  /-- Infer the schemas of samples and make them one. -/
  | unify (files : List String)
  deriving DecidableEq, Repr

/-- The samples of a task in their order. -/
def Task.samples : Task → List String
  | infer file => [file]
  | unify files => files

/-- A command. -/
structure Command where
  options : Options
  task : Task
  deriving DecidableEq, Repr

end SampleSchema

/-
  From arguments to a command.

  Options may stand before and behind the name of the task; on each side they may be given once, and
  what stands behind the name is decisive.  A value follows its option, or is attached to it.  Short
  options may be joined.  Behind `--` everything is a sample.

  Faults come in the order of the arguments, with one twist: a value that follows its option, like a
  sample, is looked at when the next option or sample comes, or at the end.  So an argument that is
  not known is told first.  Values before the name of a task are looked at once all that stands
  behind the name has been.
-/
import SampleSchema.Command.Basic
import SampleSchema.Command.Usage
import SampleSchema.Text.Digits

namespace SampleSchema
namespace Command

/-- The options with a value. -/
inductive Valued where
  | config | maxDepth | layout | output
  deriving DecidableEq, Repr

/-- An option. -/
inductive OptionName where
  | valued (v : Valued)
  | noFormats
  | verbose
  | help
  | version
  deriving DecidableEq, Repr

/-- The option with this long name. -/
def longOption? (name : String) : Option OptionName :=
  match name with
  | "config" => some (.valued .config)
  | "max-depth" => some (.valued .maxDepth)
  | "format" => some (.valued .layout)
  | "output" => some (.valued .output)
  | "no-formats" => some .noFormats
  | "verbose" => some .verbose
  | "help" => some .help
  | "version" => some .version
  | _ => none

/-- The option with this short name. -/
def shortOption? (name : Char) : Option OptionName :=
  match name with
  | 'C' => some (.valued .config)
  | 'f' => some (.valued .layout)
  | 'o' => some (.valued .output)
  | 'v' => some .verbose
  | 'h' => some .help
  | 'V' => some .version
  | _ => none

/-- The tasks by name. -/
inductive TaskName where
  | infer | unify | help
  deriving DecidableEq, Repr

/-- The task with this name. -/
def taskName? (name : String) : Option TaskName :=
  match name with
  | "infer" => some .infer
  | "unify" => some .unify
  | "help" => some .help
  | _ => none

/-! ## Values -/

/-- The number that a value spells: digits, with a plus sign in front at will, and 64 bits at
    most. -/
def number? (value : String) : Option Nat :=
  let digits := match value.toList with
    | '+' :: cs => cs
    | cs => cs
  (natOf? 10 digits).filter fun n => decide (n < Nat.pow 2 64)

/-- The layout with this name. -/
def layout? (name : String) : Option Layout :=
  match name with
  | "json" => some .compact
  | "pretty" => some .indented
  | _ => none

/-- A path, which may not be empty. -/
def path (value : String) : Except Usage String :=
  if value.isEmpty then .error .badValue else .ok value

/-- Is the option given already? -/
def isGiven (o : Options) : Valued → Bool
  | .config => o.config.isSome
  | .maxDepth => o.maxDepth.isSome
  | .layout => o.layout.isSome
  | .output => o.output.isSome

/-- Give an option its value. -/
def assign (o : Options) (v : Valued) (value : String) : Except Usage Options :=
  if isGiven o v then .error .repeated
  else
    match v with
    | .config => (path value).map fun p => { o with config := some p }
    | .output => (path value).map fun p => { o with output := some p }
    | .maxDepth =>
      match number? value with
      | some n => .ok { o with maxDepth := some n }
      | none => .error .malformedValue
    | .layout =>
      match layout? value with
      | some l => .ok { o with layout := some l }
      | none => .error .badValue

/-! ## One side of the name of the task -/

/-- What has been read and not been looked at. -/
inductive Pending where
  | nothing
  /-- An option that waits for its value. -/
  | option (v : Valued)
  | value (v : Valued) (value : String)
  | samples (files : List String)

/-- What is known of one side. -/
structure Side where
  options : Options := {}
  samples : List String := []
  pending : Pending := .nothing
  /-- Has `--` been passed? -/
  onlySamples : Bool := false

/-- How many samples there may be. -/
inductive Arity where
  | none | one | many
  deriving DecidableEq, Repr

namespace Side

/-- Look at what is pending. -/
def settle (s : Side) : Except Usage Side :=
  match s.pending with
  | .nothing => .ok s
  | .option _ => .error .badValue
  | .value v value => (assign s.options v value).map fun o =>
      { s with options := o, pending := .nothing }
  | .samples files => (files.mapM path).map fun fs =>
      { s with samples := s.samples ++ fs, pending := .nothing }

/-- Does an option wait for its value? -/
def isWaiting (s : Side) : Bool :=
  match s.pending with
  | .option _ => !s.onlySamples
  | _ => false

/-- Raise a flag. -/
def raise (s : Side) (get : Options → Bool) (set : Options → Options) : Except Usage Side := do
  let s ← s.settle
  if get s.options then .error .repeated else return { s with options := set s.options }

/-- Take an option without value. -/
def flag (s : Side) : OptionName → Except Usage Side
  | .noFormats => s.raise (·.noFormats) fun o => { o with noFormats := true }
  | .verbose => s.raise (·.verbose) fun o => { o with verbose := true }
  | .help => s.settle >>= fun _ => .error .help
  | .version => s.settle >>= fun _ => .error .version
  | .valued v => s.settle.map fun s => { s with pending := .option v }

/-- Take an option with its value attached. -/
def attached (s : Side) (v : Valued) (value : String) : Except Usage Side := do
  let s ← s.settle
  let o ← assign s.options v value
  return { s with options := o }

/-- Take a long option, which may have a value attached behind `=`. -/
def long (s : Side) (knows : OptionName → Bool) (name : String) (value : Option String) :
    Except Usage Side :=
  match (longOption? name).filter knows, value with
  | none, _ => .error .unknownArgument
  | some (.valued v), some value => s.attached v value
  | some _, some _ => .error .needlessValue
  | some o, none => s.flag o

/-- Take joined short options; what stands behind one with a value is its value. -/
def short (s : Side) (knows : OptionName → Bool) : List Char → Except Usage Side
  | [] => .ok s
  | c :: cs =>
    match (shortOption? c).filter knows with
    | none => .error .unknownArgument
    | some (.valued v) =>
      match cs with
      | [] => s.flag (.valued v)
      | '=' :: value => s.attached v (String.ofList value)
      | value => s.attached v (String.ofList value)
    | some o =>
      match s.flag o with
      | .error e => .error e
      | .ok s => short s knows cs

/-- Take a sample.  The samples that stand side by side are looked at together. -/
def sample (s : Side) (arity : Arity) (file : String) : Except Usage Side :=
  match arity with
  | .none => .error .unknownTask
  | .one =>
    match s.pending, s.samples with
    | .samples _, _ => .error .unknownArgument
    | _, _ :: _ => .error .unknownArgument
    | _, [] => s.settle.map fun s => { s with pending := .samples [file] }
  | .many =>
    match s.pending with
    | .samples files => .ok { s with pending := .samples (files ++ [file]) }
    | _ => s.settle.map fun s => { s with pending := .samples [file] }

/-- The name and the attached value of a long option. -/
def splitLong (cs : List Char) : String × Option String :=
  let name := cs.takeWhile (· ≠ '=')
  match cs.dropWhile (· ≠ '=') with
  | [] => (String.ofList name, none)
  | _ :: value => (String.ofList name, some (String.ofList value))

/-- Take one argument. -/
def take (s : Side) (knows : OptionName → Bool) (arity : Arity) (arg : String) :
    Except Usage Side :=
  if s.onlySamples then s.sample arity arg
  else
    match arg.toList with
    | ['-', '-'] => .ok { s with onlySamples := true }
    | '-' :: '-' :: cs =>
      let (name, value) := splitLong cs
      s.long knows name value
    | '-' :: c :: cs => s.short knows (c :: cs)
    | _ =>
      match s.pending with
      | .option v => .ok { s with pending := .value v arg }
      | _ => s.sample arity arg

end Side

/-! ## All arguments -/

/-- Take the arguments behind the name of a task. -/
def readTask (arity : Arity) (s : Side) : List String → Except Usage Side
  | [] => do
    let s ← s.settle
    if s.samples.isEmpty then .error .sampleMissing else return s
  | arg :: args => do readTask arity (← s.take (· ≠ .version) arity arg) args

/-- The names behind `help`. -/
def readHelp : List String → Usage
  | [] => .help
  | name :: names =>
    match taskName? name, names with
    | some _, [] => .help
    | _, _ => .unknownTask

/-- Add the options before the name of a task, which are looked at last. -/
def finish (outer inner : Side) (task : List String → Except Usage Task) :
    Except Usage Command := do
  let outer ← outer.settle
  return ⟨outer.options.merge inner.options, ← task inner.samples⟩

/-- Take the arguments up to the name of a task, and those behind it. -/
def readArguments (s : Side) : List String → Except Usage Command
  | [] => do
    let s ← s.settle
    .error (if s.options = {} then .nothingAsked else .taskMissing)
  | arg :: args =>
    match (if s.onlySamples || s.isWaiting then none else taskName? arg) with
    | some .help => .error (readHelp args)
    | some .infer => do
      let inner ← readTask .one {} args
      finish s inner fun
        | file :: _ => .ok (.infer file)
        | [] => .error .sampleMissing
    | some .unify => do
      let inner ← readTask .many {} args
      finish s inner fun files => .ok (.unify files)
    | none =>
      if s.onlySamples && (taskName? arg).isSome then .error .unknownArgument
      else do readArguments (← s.take (fun _ => true) .none arg) args

/-- The command that arguments ask for. -/
def ofArguments (args : List String) : Except Usage Command := readArguments {} args

end Command
end SampleSchema

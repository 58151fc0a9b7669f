/-
  Arguments that are no command.

  Either the caller made a fault, or wished for help or for the version.  A wish is granted on
  standard output, and a fault is told on standard error.
-/

namespace SampleSchema

/-- Why arguments are no command. -/
inductive Usage where
  /-- Help is asked for. -/
  | help
  /-- The version is asked for. -/
  | version
  /-- There are no arguments at all. -/
  | nothingAsked
  /-- There are options and no task. -/
  | taskMissing
  | unknownTask
  | unknownArgument
  | sampleMissing
  /-- A value is missing, empty, or none of the possible ones. -/
  | badValue
  /-- A value is not of the right form. -/
  | malformedValue
  /-- A value stands where none belongs. -/
  | needlessValue
  /-- An option is given twice. -/
  | repeated
  deriving DecidableEq, Repr

/-- What the program calls itself. -/
def programName : String := "json-shape"

/-- The version of the program. -/
def programVersion : String := "0.1.0"

/-- How the program is used. -/
def usageText : String := "\n".intercalate
  ["Usage: " ++ programName ++ " [OPTIONS] infer <FILE>",
    "       " ++ programName ++ " [OPTIONS] unify <FILES>...",
    "",
    "Options:",
    "  -C, --config <CONFIG>        read settings from this file",
    "      --max-depth <MAX_DEPTH>  do not open containers at this depth",
    "      --no-formats             do not look for string formats",
    "  -f, --format <FORMAT>        lay the schema out as json or pretty",
    "  -o, --output <OUTPUT>        write the schema to this file",
    "  -v, --verbose                report more",
    "  -h, --help                   show this help",
    "  -V, --version                show the version",
    ""]

namespace Usage

/-- What standard output gets. -/
def printed : Usage → String
  | version => programName ++ " " ++ programVersion ++ "\n"
  | help => usageText
  | _ => ""

/-- What is wrong, where something is. -/
def fault? : Usage → Option String
  | help | version | nothingAsked => none
  | taskMissing => some "a task is missing"
  | unknownTask => some "unknown task"
  | unknownArgument => some "unexpected argument"
  | sampleMissing => some "a sample is missing"
  | badValue => some "a value is missing or none of the possible ones"
  | malformedValue => some "a value is not of the right form"
  | needlessValue => some "a value stands where none belongs"
  | repeated => some "an option is given more than once"

/-- What standard error gets. -/
def complaint : Usage → String
  | help | version => ""
  | u => (u.fault?.map fun f => "error: " ++ f ++ "\n\n").getD "" ++ usageText

/-- The code with which the program ends. -/
def exitCode : Usage → Nat
  | help | version => 0
  | _ => 2

end Usage
end SampleSchema

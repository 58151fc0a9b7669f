/-
  The program.

  The files of the command are read, the command is evaluated, and its text is written.  The schema
  goes to standard output or to a file; events and failures go to standard error.
-/
import SampleSchema.Command.Arguments
import SampleSchema.Command.Run

namespace SampleSchema
namespace Program

/-- The reason that an error of the system stands for. -/
def denialOf (e : IO.Error) : Denial :=
  match e with
  | .noFileOrDirectory .. => .missing
  | .inappropriateType _ 20 _ => .notDirectory
  | .inappropriateType _ 21 _ => .isDirectory
  | e => .other (toString e)

/-- The text of bytes. -/
def textOfBytes (bytes : ByteArray) : Except Denial String :=
  match String.fromUTF8? bytes with
  | some s => .ok s
  | none => .error .notText

/-- Read everything that is left of a stream. -/
partial def readRest (s : IO.FS.Stream) (got : ByteArray) : IO ByteArray := do
  let more ← s.read 65536
  if more.isEmpty then return got else readRest s (got ++ more)

/-- Read a file. -/
def readFileText (path : String) : IO (Except Denial String) := do
  try return textOfBytes (← IO.FS.readBinFile path)
  catch e => return .error (denialOf e)

/-- Report an event if it matters enough. -/
def reportEvent (verbose : Bool) (e : Event) : IO Unit := do
  let isShown := match e.level with
    | .trace => false
    | .debug => verbose
    | .info | .warn => true
  if isShown then
    let fields := e.fields.map fun f => " " ++ f.1 ++ "=" ++ f.2
    IO.eprintln (e.level.name ++ " " ++ e.message ++ String.join fields)

/-- Tell a failure. -/
def fail (f : Failure) : IO UInt32 := do
  IO.eprintln (Command.errorLine f)
  return 1

/-- Run a command on the files of the machine. -/
def run (c : Command) : IO UInt32 := do
  let samples := c.task.samples
  let paths := c.options.config.toList ++ samples.filter (· ≠ standardInput)
  let texts ← paths.mapM fun path => do return (path, ← readFileText path)
  let input ← if samples.contains standardInput then
      textOfBytes <$> readRest (← IO.getStdin) .empty
    else pure (.ok "")
  let e := c.evaluate ⟨fun path => (texts.lookup path).getD (.error .missing), input⟩
  e.log.forM (reportEvent c.options.verbose)
  match e.result, c.options.output with
  | .error f, _ => fail f
  | .ok text, none => do
    IO.print text
    return 0
  | .ok text, some path =>
    try
      IO.FS.writeFile path text
      reportEvent c.options.verbose (.wrote path)
      return 0
    catch err => fail (.inputOutput (denialOf err).message)

end Program
end SampleSchema

open SampleSchema in
/-- The program. -/
def main (args : List String) : IO UInt32 := do
  match Command.ofArguments args with
  | .ok c => Program.run c
  | .error u =>
    IO.print u.printed
    IO.eprint u.complaint
    return u.exitCode.toUInt32

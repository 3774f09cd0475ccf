import Std.Time.DateTime
import EditorShell.Invocation

/-!
# The program

Reads what a run needs, carries it out, and writes what it leaves.
-/

namespace EditorShell
namespace Main

/-- The environment variables for settings, in their usual spelling. -/
def variableNames : List String :=
  ["USER", "HOME", "SHELL", "PATH", "TERM", "HISTORY_LIMIT", "HISTORY_TEXT_LIMIT",
    "AUTOCOMPLETE_LIMIT", "NETWORK_DELAY", "COMMAND_GROUPS", "LOG_LEVEL"].map ("VSHELL_" ++ ·)

/-- The environment variables for settings that are set. -/
def environment : IO (List (String × String)) :=
  variableNames.filterMapM fun name => do return (← IO.getEnv name).map (name, ·)

/-- The text of a file, or why it cannot be read. A directory opens like a file, and the error that
reading it gives names no file. -/
def readFile (path : String) : IO (Except Invocation.AccessError String) := do
  try return .ok (← IO.FS.readFile path)
  catch
    | .inappropriateType none .. => return .error .directory
    | .inappropriateType .. => return .error .throughFile
    | .invalidArgument .. =>
      return .error (if path.contains '\x00' then .zeroCharacter else .longName)
    | .permissionDenied .. => return .error .denied
    | _ => return .error .missing

/-- The day it is. -/
def today : IO Date := do
  let now ← Std.Time.Timestamp.now
  return Date.ofDayNumber (now.toSecondsSinceUnixEpoch.val.toNat / 86400)

/-- What a run finds around it, apart from its input. -/
def world (options : Invocation.Options) : IO Invocation.World := do
  let text ← match options.project with
    | some (.path path) => readFile path
    | _ => pure (.error .missing)
  return { environment := ← environment, read := fun _ => text, input := "", today := ← today }

/-- Prints what the console holds, and empties it. -/
def display (console : Invocation.Console) : IO Invocation.Console := do
  IO.print console.stdout
  IO.eprint console.stderr
  (← IO.getStdout).flush
  return { console with stdout := "", stderr := "" }

/-- Reads lines and runs them, as `Console.interact` does, but prints what comes of each line before
it reads the next. -/
partial def converse (console : Invocation.Console) : IO Invocation.Console := do
  let asked ← display console.ask
  let line ← (← IO.getStdin).getLine
  if line.isEmpty || Invocation.isFarewell line then return asked
  converse (asked.run (Text.withoutEnding "\n" line)).1

/-- Writes what a run leaves. -/
def leave (run : Invocation.Run) : IO UInt32 := do
  IO.print run.stdout
  IO.eprint run.stderr
  if let .file path text := run.saved then IO.FS.writeFile path text
  if let some message := run.saved.message? then
    IO.eprintln message
    return 1
  return UInt32.ofNat (run.exitCode % 256).toNat

/-- Carries out a request. -/
def carryOut (request : Invocation.Request) : IO (Except Invocation.Fatal Invocation.Run) := do
  let world ← world request.options
  match request.task with
  | .exec _ => return Invocation.run world request
  | .shell =>
    match Invocation.begin world request.options with
    | .error fatal => return .error fatal
    | .ok console => return Invocation.finish request.options (← converse console) 0

/-- Runs the program. -/
def runProgram (args : List String) : IO UInt32 := do
  match Invocation.request args with
  | .error halt => return UInt32.ofNat halt.exitCode
  | .ok request =>
    match ← carryOut request with
    | .ok run => leave run
    | .error fatal =>
      let (stdout, stderr) := fatal.printed
      IO.print stdout
      IO.eprint stderr
      IO.eprintln fatal.message
      return 1

end Main
end EditorShell

/-- The program. -/
def main (args : List String) : IO UInt32 := EditorShell.Main.runProgram args

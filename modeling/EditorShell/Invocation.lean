import EditorShell.Invocation.Arguments
import EditorShell.Project.Text
import EditorShell.Settings.Load
import EditorShell.Shell

/-!
# Running the program

A run takes its settings from the environment, loads the project file if one is named, and starts a
session. It then runs one line, or lines from the input until one of them ends it, and saves the
project if asked to. What is printed and saved is a value here; reading and writing is left to the
caller.

A file option without a name counts as given, and fails when its turn comes: a project at the start,
a file to save at the end. A project that cannot be written fails at the end as well, when all lines
have been run and printed.
-/

namespace EditorShell
namespace Invocation

/-- Why a file outside cannot be read or written. -/
inductive AccessError where
  | missing
  | directory
  /-- The path leads through a file. -/
  | throughFile
  | longName
  /-- The path holds the character U+0000. -/
  | zeroCharacter
  | denied
deriving DecidableEq, Repr

/-- The error in words. -/
def AccessError.message : AccessError → String
  | .missing => "No such file or directory"
  | .directory => "Is a directory"
  | .throughFile => "Not a directory"
  | .longName => "File name too long"
  | .zeroCharacter => "embedded null byte"
  | .denied => "Permission denied"

/-- What a run finds around it. -/
structure World where
  /-- The environment variables. -/
  environment : List (String × String)
  /-- The text of the file at a path. -/
  read : String → Except AccessError String
  /-- The text of the input. -/
  input : String
  today : Date

/-- What a run saves. -/
inductive Saved where
  | nothing
  | file (path text : String)
  /-- It cannot save, as there is no name for the file. -/
  | unnamed
deriving DecidableEq, Repr

/-- What a run prints, the code it ends with, and what it saves. -/
structure Run where
  exitCode : Int
  stdout : String
  stderr : String
  saved : Saved
deriving DecidableEq, Repr

/-- The message about a file without a name that is to be accessed in this way. -/
def unnamedMessage (access : String) : String := "'list' object has no attribute '" ++ access ++ "'"

/-- The message if a run has no name for the file that it is to save. -/
def Saved.message? : Saved → Option String
  | .unnamed => some (unnamedMessage "write_text")
  | _ => none

/-- Why a run fails. -/
inductive Fatal where
  | settings (error : SettingsError)
  | unknownLevel (level : String)
  | unreadProject (path : String) (error : AccessError)
  | unnamedProject
  | invalidProject (findings : List Finding)
  | start (error : StartError)
  /-- The project that is to be saved cannot be written. What has been printed by then is kept. -/
  | unwritten (stdout stderr : String) (error : ProjectNode.WriteError)
deriving DecidableEq, Repr

/-- The error in words. -/
def Fatal.message : Fatal → String
  | .settings error => error.message
  | .unknownLevel level => "Unknown level: " ++ Text.quoted level
  | .unreadProject _ .zeroCharacter => AccessError.zeroCharacter.message
  | .unreadProject path error => path ++ ": " ++ error.message
  | .unnamedProject => unnamedMessage "read_bytes"
  | .invalidProject findings => "project: " ++ Finding.summary findings
  | .start error => error.message
  | .unwritten _ _ error => error.message

/-- What a run that fails has printed. -/
def Fatal.printed : Fatal → String × String
  | .unwritten stdout stderr _ => (stdout, stderr)
  | _ => ("", "")

/-- The levels that a log can be set to. -/
def logLevels : List String :=
  ["CRITICAL", "FATAL", "ERROR", "WARN", "WARNING", "INFO", "DEBUG", "NOTSET"]

/-- The settings of a run. An option that is not empty overrides the level of the log. -/
def settings (world : World) (options : Options) : Except Fatal Settings :=
  match Settings.load ⟨[], world.environment⟩ with
  | .error error => .error (.settings error)
  | .ok settings =>
    let logLevel := match options.logLevel with
      | some level => if level = "" then settings.logLevel else level
      | none => settings.logLevel
    let level := Text.upper logLevel
    if logLevels.contains level then .ok { settings with logLevel := logLevel }
    else .error (.unknownLevel level)

/-- The project tree that a run starts with. -/
def project (world : World) (options : Options) : Except Fatal (List ProjectNode) :=
  match options.project with
  | none => .ok []
  | some .dropped => .error .unnamedProject
  | some (.path path) =>
    match world.read path with
    | .error error => .error (.unreadProject path error)
    | .ok text =>
      match ProjectNode.parse text with
      | .error findings => .error (.invalidProject findings)
      | .ok tree => .ok tree

/-- What is saved at the end. A name is looked for first, then the project is written. -/
def saved (options : Options) (session : Session) : Except ProjectNode.WriteError Saved :=
  match options.save with
  | none => .ok .nothing
  | some .dropped => .ok .unnamed
  | some (.path path) =>
    (ProjectNode.write (some 2) session.store.tree).map fun text => .file path (text ++ "\n")

/-- What an entry adds to the output and to the messages. -/
def printed (entry : Entry) : String × String :=
  if entry.output = "" then ("", "")
  else if entry.exitCode = 0 then (entry.output ++ "\n", "")
  else ("", entry.output ++ "\n")

/-- The shell around a running session. -/
structure Console where
  shell : Shell
  session : Session
  stdout : String
  stderr : String

/-- Runs a line and prints what comes of it. -/
def Console.run (console : Console) (line : String) : Console × Int :=
  let raw := Text.strip line
  if raw = "" then (console, 0)
  else
    let reply := console.shell.perform console.session raw (Shell.read console.session raw)
    let (out, err) := printed reply.entry
    ({ shell := reply.shell
       session := reply.shell.session.getD console.session
       stdout := console.stdout ++ out
       stderr := console.stderr ++ err }, reply.entry.exitCode)

/-- A line that ends the input. -/
def isFarewell (line : String) : Bool := [":q", "exit", "quit"].contains (Text.strip line)

/-- Prints the prompt. -/
def Console.ask (console : Console) : Console :=
  { console with stdout := console.stdout ++ console.session.prompt console.shell.settings }

/-- Runs lines, each after a prompt, up to one that ends the input. -/
def Console.interact (console : Console) : List String → Console
  | [] => console.ask
  | line :: lines =>
    if isFarewell line then console.ask else (console.ask.run line).1.interact lines

/-- The lines of the input; a last one need not be ended. -/
def inputLines (input : String) : List String :=
  let pieces := Text.split '\n' input
  if pieces.getLast? = some "" then pieces.dropLast else pieces

/-- The console with which a run starts. -/
def begin (world : World) (options : Options) : Except Fatal Console := do
  let settings ← settings world options
  let tree ← project world options
  let session ← (Session.start settings tree).mapError .start
  return ⟨{ Shell.create settings [] world.today with session := some session }, session, "", ""⟩

/-- What a run leaves when its last line has been run. -/
def finish (options : Options) (console : Console) (exitCode : Int) : Except Fatal Run :=
  match saved options console.session with
  | .error error => .error (.unwritten console.stdout console.stderr error)
  | .ok saved => .ok ⟨exitCode, console.stdout, console.stderr, saved⟩

/-- Carries out a request. -/
def run (world : World) (request : Request) : Except Fatal Run :=
  (begin world request.options).bind fun console =>
    match request.task with
    | .exec line =>
      let (console, exitCode) := console.run line
      finish request.options console exitCode
    | .shell => finish request.options (console.interact (inputLines world.input)) 0

end Invocation
end EditorShell

import EditorShell.Command.Date
import EditorShell.Session

/-!
# Commands

A command is known by a name, belongs to a group, and has a handler. A handler sees its
surroundings, the session and its arguments. Its type says what it can do: a `view` only answers,
while an `edit` also leaves a session, and does so even if it fails half-way.
-/

namespace EditorShell

/-- What a command prints, and the code it ends with. -/
structure Result where
  stdout : String
  stderr : String
  exitCode : Int
deriving DecidableEq, Repr

namespace Result

/-- Plain output and success. -/
def ok (stdout : String) : Result := ⟨stdout, "", 0⟩

/-- No output and success. -/
def silent : Result := ok ""

/-- A message and a code. -/
def fail (stderr : String) (exitCode : Int) : Result := ⟨"", stderr, exitCode⟩

/-- Messages one under the other and code 1, or success if there is none. -/
def ofMessages (messages : List String) : Result :=
  if messages.isEmpty then silent else fail (Text.joinLines messages) 1

/-- What a user sees: the output and the messages, without those that are empty. -/
def output (result : Result) : String :=
  Text.joinLines ([result.stdout, result.stderr].filter (· ≠ ""))

end Result

/-- What a command finds for its operands: a value or a message for each. -/
abbrev Answers (α : Type) := List (Except String α)

namespace Answers

/-- The values, in order. -/
def values {α : Type} (answers : Answers α) : List α :=
  answers.filterMap fun
    | .ok a => some a
    | .error _ => none

/-- The messages, in order. -/
def messages {α : Type} (answers : Answers α) : List String :=
  answers.filterMap fun
    | .ok _ => none
    | .error message => some message

end Answers

/-- Why a command gives up. -/
inductive Failure where
  /-- It was called in the wrong way. -/
  | usage (message : String)
  /-- What it was asked for cannot be done. -/
  | refused (message : String)
  /-- Something went wrong that it did not foresee. -/
  | crashed (message : String)
deriving DecidableEq, Repr

/-- What a user sees of a failure of the command called `name`. -/
def Failure.result (name : String) : Failure → Result
  | .usage message => .fail message 2
  | .refused message => .fail message 1
  | .crashed message => .fail (name ++ ": " ++ message) 1

/-- What a handler answers. -/
abbrev Outcome := Except Failure Result

/-- Which calls of a command wait for a simulated network. -/
inductive Latency where
  | never
  | always
  /-- Those whose first argument is one of these. -/
  | onSubcommands (names : List String)
deriving DecidableEq, Repr

/-- A call with these arguments waits. -/
def Latency.waits : Latency → List String → Bool
  | .never, _ => false
  | .always, _ => true
  | .onSubcommands names, arg :: _ => names.contains arg
  | .onSubcommands _, [] => false

/-- What is known of a command apart from its handler. -/
structure CommandInfo where
  name : String
  description : String
  usage : String
  group : String
  latency : Latency
deriving DecidableEq, Repr

/-- What a handler sees besides the session. -/
structure Surroundings where
  settings : Settings
  /-- The name by which the command was called. -/
  name : String
  /-- The commands that can be called. -/
  commands : Table CommandInfo
  today : Date

/-- What a command does. -/
inductive Handler where
  | view (run : Surroundings → Session → List String → Outcome)
  | edit (run : Surroundings → Session → List String → Session × Outcome)

/-- Carries out a handler. A view leaves the session as it is. -/
def Handler.run : Handler → Surroundings → Session → List String → Session × Outcome
  | .view run, surroundings, session, args => (session, run surroundings session args)
  | .edit run, surroundings, session, args => run surroundings session args

/-- A command. -/
structure Command where
  info : CommandInfo
  handler : Handler

end EditorShell

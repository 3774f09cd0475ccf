import EditorShell.Builtin
import EditorShell.Line.Command
import EditorShell.Project.Export

/-!
# The shell

A shell offers commands and has at most one session. A line is read, dispatched to a command, and
recorded; the reply holds the entry, and the project tree if the line changed the store, so that an
editor that shows the last tree it was told always shows the store.

A line fails in one of three ways: it is no command line (code 2), its command does not exist (code
127), or its command gives up. In all three the session goes on and the line is recorded.
-/

namespace EditorShell

/-- There is no session. -/
inductive SessionClosed where
  | mk
deriving DecidableEq, Repr

/-- The error in words. -/
def SessionClosed.message (_ : SessionClosed) : String :=
  "Session is not running; call start() first"

/-- The commands that are offered, and the session if one is running. -/
structure Shell where
  settings : Settings
  catalog : Catalog
  today : Date
  /-- The name of the last command that was found. -/
  lastCommandName : Option String
  session : Option Session

/-- What a line leads to. -/
structure Reply where
  shell : Shell
  entry : Entry
  /-- The project tree after the line, if the store was changed. -/
  change : Option (List ProjectNode)

namespace Shell

/-! ## Commands -/

/-- The built-in commands of the enabled groups, and of them only the allowed ones if any are
named. -/
def offered (settings : Settings) (allowed : List String) : Catalog where
  entries := Builtin.catalog.entries.filter fun (name, command) =>
    settings.enabledGroups.contains command.info.group &&
      (allowed.isEmpty || allowed.contains name)
  nodup := Builtin.catalog.nodup.sublist (List.filter_sublist.map _)

/-- A shell without a session. -/
def create (settings : Settings) (allowed : List String) (today : Date) : Shell :=
  ⟨settings, offered settings allowed, today, none, none⟩

/-- Offers a further command, in place of one of the same name. -/
def register (shell : Shell) (command : Command) : Shell :=
  let info := command.info
  let usage := if info.usage = "" then info.name else info.usage
  { shell with
    catalog := shell.catalog.set info.name
      { command with info := { info with usage := usage, group := "custom" } } }

/-- The names of the commands, in order. -/
def commandNames (shell : Shell) : List String := Text.sort shell.catalog.keys

/-- What is known of the commands. -/
def infos (shell : Shell) : Table CommandInfo where
  entries := shell.catalog.entries.map fun (name, command) => (name, command.info)
  nodup := by
    have h := shell.catalog.nodup
    simpa [Function.comp_def] using h

/-! ## Sessions -/

/-- Starts a session on a project tree, in place of one that is running. -/
def start (shell : Shell) (tree : List ProjectNode) : Except StartError Shell :=
  (Session.start shell.settings tree).map fun session => { shell with session := some session }

/-- Ends the session. -/
def stop (shell : Shell) : Shell := { shell with session := none }

/-- Ends the session and starts another one. If that one cannot start, there is none. -/
def restart (shell : Shell) (tree : List ProjectNode) : Shell × Option StartError :=
  match shell.stop.start tree with
  | .ok shell => (shell, none)
  | .error error => (shell.stop, some error)

/-- The running session. -/
def require (shell : Shell) : Except SessionClosed Session :=
  match shell.session with
  | some session => .ok session
  | none => .error .mk

/-- Puts another project tree into the running session. -/
def reload (shell : Shell) (tree : List ProjectNode) : Except SessionClosed Shell :=
  shell.require.map fun session => { shell with session := some (session.reload tree) }

/-! ## Lines -/

/-- What is left of a session when a command has run, and what the command answered. -/
structure Ran where
  lastCommandName : Option String
  session : Session
  result : Result

/-- Sends the output of a command to a file, with a line feed at its end unless it is empty. The
messages and the code stay, unless the file cannot be written. -/
def redirect (settings : Settings) (session : Session) (result : Result)
    (redirection : Redirection) : Session × Result :=
  let target := redirection.target
  let text := if result.stdout = "" || Text.endsWith result.stdout "\n" then result.stdout
    else result.stdout ++ "\n"
  match session.store.writeFile (session.resolve settings target) text redirection.append none with
  | .ok store => ({ session with store := store }, { result with stdout := "" })
  | .error _ =>
    (session, .fail ("bash: " ++ target ++ ": No such file or directory") 1)

/-- Runs the command of a line. A command that gives up writes no file. -/
def dispatch (shell : Shell) (session : Session) (line : CommandLine) : Ran :=
  match line.name with
  | none => ⟨shell.lastCommandName, session, .silent⟩
  | some name =>
    match shell.catalog.get? name with
    | none => ⟨shell.lastCommandName, session, .fail (name ++ ": command not found") 127⟩
    | some command =>
      match command.handler.run ⟨shell.settings, name, shell.infos, shell.today⟩ session line.args
        with
      | (session, .error failure) => ⟨some name, session, failure.result name⟩
      | (session, .ok result) =>
        match line.redirection with
        | none => ⟨some name, session, result⟩
        | some redirection =>
          let (session, result) := redirect shell.settings session result redirection
          ⟨some name, session, result⟩

/-- What a line leads to before it is recorded. A line that is no command line runs nothing. -/
def attend (shell : Shell) (session : Session) : Except SyntaxError CommandLine → Ran
  | .error error =>
    ⟨shell.lastCommandName, session, .fail ("syntax error: " ++ error.message) 2⟩
  | .ok line => shell.dispatch session line

/-- The arguments that are recorded. -/
def recordedArgs : Except SyntaxError CommandLine → List String
  | .error _ => []
  | .ok line => line.args

/-- Runs a line that has been read, and records it. -/
def perform (shell : Shell) (session : Session) (raw : String)
    (line : Except SyntaxError CommandLine) : Reply :=
  let ran := shell.attend session line
  let after := ran.session
  let moved := if after.store.cwd = session.store.cwd then after else after.tellCwd
  let entry := Entry.cut moved.history.textLimit
    ⟨raw, recordedArgs line, ran.result.output, ran.result.exitCode⟩
  let recorded := { moved with history := moved.history.record entry }
  { shell := { shell with lastCommandName := ran.lastCommandName, session := some recorded }
    entry := entry
    change := if after.store.revision = session.store.revision then none
      else some recorded.store.tree }

/-- The command line that a line stands for in a session. -/
def read (session : Session) (raw : String) : Except SyntaxError CommandLine :=
  CommandLine.parse session.aliases session.environment raw

/-- Runs a line. A blank line does nothing and is not recorded. -/
def execute (shell : Shell) (line : String) : Except SessionClosed Reply :=
  shell.require.map fun session =>
    let raw := Text.strip line
    if raw = "" then ⟨shell, .blank, none⟩
    else shell.perform session raw (read session raw)

end Shell
end EditorShell

import EditorShell.Project.Import
import EditorShell.Session.History
import EditorShell.Settings

/-!
# Sessions

A session is what a user works in between start and stop: a store, the environment, the aliases and
the history. It cannot start if the history is to keep more entries than can be counted.
-/

namespace EditorShell

/-- The state of a running session. -/
structure Session where
  store : Store
  environment : Table String
  aliases : Table String
  history : History
deriving DecidableEq, Repr

/-- Why a session cannot start. -/
inductive StartError where
  /-- The history is to keep too many entries. -/
  | oversizedHistory
deriving DecidableEq, Repr

/-- The error in words. -/
def StartError.message : StartError → String
  | .oversizedHistory => "Python int too large to convert to C ssize_t"

namespace Session

/-- The aliases that every session starts with. -/
def defaultAliases : Table String :=
  Table.ofList [("ll", "ls -la"), ("la", "ls -la"), ("..", "cd .."), ("...", "cd ../.."),
    ("cls", "clear")]

/-- A session over a store, with nothing done yet. -/
def ofSettings (settings : Settings) (store : Store) : Except StartError Session :=
  if History.largestLimit < settings.historyLimit then .error .oversizedHistory
  else .ok {
    store := store
    environment := settings.environment
    aliases := defaultAliases
    history := ⟨[], settings.historyLimit, settings.historyTextLimit⟩ }

/-- Sets the variable that tells the working directory. -/
def tellCwd (session : Session) : Session :=
  { session with environment := session.environment.set "PWD" session.store.cwd }

/-- A session at its start: the project tree is loaded, and the working directory is the home if
that is a directory. -/
def start (settings : Settings) (tree : List ProjectNode) : Except StartError Session :=
  let store := Store.ofTree tree
  let home := Path.resolve Path.root settings.home
  let store := if store.isDirectory home then { store with cwd := home } else store
  (ofSettings settings store).map tellCwd

/-- The session with another project tree in its store. -/
def reload (session : Session) (tree : List ProjectNode) : Session :=
  { session with store := (session.store.load tree).store }.tellCwd

/-- The home directory: of the environment, or else of the settings. -/
def home (session : Session) (settings : Settings) : String :=
  session.environment.getD "HOME" settings.home

/-- The user: of the environment, or else of the settings. -/
def user (session : Session) (settings : Settings) : String :=
  session.environment.getD "USER" settings.user

/-- A path with `~` in front replaced by the home directory. -/
def expandHome (session : Session) (settings : Settings) (path : String) : String :=
  if path = "~" || Text.startsWith path "~/" then
    session.home settings ++ "/" ++ Text.drop 2 path
  else path

/-- What a typed path means. -/
def resolve (session : Session) (settings : Settings) (path : String) : String :=
  Path.resolve session.store.cwd (session.expandHome settings path)

/-- What stands before the line that is typed. -/
def prompt (session : Session) (settings : Settings) : String :=
  session.user settings ++ ":" ++
    Path.abbreviate (session.home settings) session.store.cwd ++ " $ "

end Session
end EditorShell

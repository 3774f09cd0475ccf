import EditorShell.Binary64.Shortest
import EditorShell.Table

/-!
# Settings of a session

What a host can choose for a session: the values that seed its environment, its limits, and the
groups of commands it offers. The group `core` is always on.
-/

namespace EditorShell

/-- The choices for one session. -/
structure Settings where
  user : String
  home : String
  shell : String
  path : String
  term : String
  /-- How many entries the history keeps. -/
  historyLimit : Nat
  /-- How many characters of a line or an argument the history keeps. -/
  historyTextLimit : Nat
  /-- How many suggestions a completion gives. -/
  autocompleteLimit : Nat
  /-- Seconds that a simulated network access takes. -/
  networkDelay : Binary64
  /-- The groups of commands that are switched on, each once. -/
  commandGroups : List String
  logLevel : String
deriving DecidableEq, Repr

namespace Settings

/-- The groups that are on unless a host says otherwise. -/
def defaultGroups : List String := ["core", "tooling", "git", "network"]

/-- The choices of a host that makes none. -/
def default : Settings where
  user := "developer"
  home := "/"
  shell := "/bin/bash"
  path := "/bin:/usr/bin:/usr/local/bin:/node_modules/.bin"
  term := "xterm-256color"
  historyLimit := 100
  historyTextLimit := 256
  autocompleteLimit := 10
  networkDelay := .finite false 1 (-1)
  commandGroups := defaultGroups
  logLevel := "INFO"

/-- The groups whose commands are offered. -/
def enabledGroups (settings : Settings) : List String := settings.commandGroups.insert "core"

/-- The environment at the start of a session. -/
def environment (settings : Settings) : Table String :=
  Table.ofList [("HOME", settings.home), ("PWD", settings.home), ("USER", settings.user),
    ("SHELL", settings.shell), ("PATH", settings.path), ("TERM", settings.term)]

end Settings
end EditorShell

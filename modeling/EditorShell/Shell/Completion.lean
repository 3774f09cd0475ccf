import EditorShell.Shell

/-!
# Completion

A text is completed in its last word: to a command or an alias if it is the only word, and to a
path. The part of the word up to its last slash is the directory to look in.
-/

namespace EditorShell
namespace Shell

/-- The commands and aliases that start with the word, in order. -/
def nameSuggestions (shell : Shell) (session : Session) (word : String) : List String :=
  let names := shell.catalog.keys ++
    session.aliases.keys.filter fun name => !shell.catalog.contains name
  Text.sort (names.filter (Text.startsWith · word))

/-- The children of a directory that start with `start`, each after the text `shown` for the
directory, and directories with a slash. -/
def childSuggestions (store : Store) (directory shown start : String) : List String :=
  ((store.children directory).filter fun child => Text.startsWith child.name start).map fun child =>
    shown ++ child.name ++ if child.isDirectory then "/" else ""

/-- The paths that the word can be completed to. -/
def pathSuggestions (session : Session) (word : String) : List String :=
  let store := session.store
  match Text.partitionLast? '/' word with
  | none => childSuggestions store store.cwd "" word
  | some (directory, start) =>
    let path := Path.resolve store.cwd (if directory = "" then Path.root else directory)
    childSuggestions store path (directory ++ "/") start

/-- All suggestions, names before paths. -/
def suggestions (shell : Shell) (session : Session) (text : String) : List String :=
  match Text.partitionLast? ' ' text with
  | none => shell.nameSuggestions session text ++ pathSuggestions session text
  | some (_, word) => pathSuggestions session word

/-- The first suggestions, as many as the settings allow. -/
def complete (shell : Shell) (text : String) : Except SessionClosed (List String) :=
  shell.require.map fun session =>
    (shell.suggestions session text).take shell.settings.autocompleteLimit

end Shell
end EditorShell

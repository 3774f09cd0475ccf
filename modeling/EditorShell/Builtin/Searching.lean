import EditorShell.Command
import EditorShell.Text.Case
import EditorShell.Text.Glob
import EditorShell.Text.Lines

/-!
# Commands that search

`grep` finds the lines of files that hold a text, `find` the paths at and below the working
directory that pass its filters.
-/

namespace EditorShell
namespace Builtin

/-! ## Lines -/

/-- What `grep` looks for, and where. -/
structure LineSearch where
  ignoreCase : Bool
  pattern : String
  files : List String

/-- Reads the arguments: options anywhere, the pattern, and at least one file. -/
def lineSearch? (args : List String) : Option LineSearch :=
  let isCaseOption (arg : String) : Bool := arg = "-i" || arg = "--ignore-case"
  let isOption (arg : String) : Bool := isCaseOption arg || arg = "-n" || arg = "--line-number"
  match args.filter (!isOption ·) with
  | pattern :: file :: files => some ⟨args.any isCaseOption, pattern, file :: files⟩
  | _ => none

/-- The line holds the pattern. -/
def LineSearch.admits (search : LineSearch) (line : String) : Bool :=
  if search.ignoreCase then Text.contains (Text.lower line) (Text.lower search.pattern)
  else Text.contains line search.pattern

/-- The lines of a file that hold the pattern, each with its number, after the name of the file if
there are several. -/
def matchingLines (s : Surroundings) (session : Session) (search : LineSearch) (file : String) :
    Except String (List String) :=
  let path := session.resolve s.settings file
  if session.store.isDirectory path then .error ("grep: " ++ file ++ ": Is a directory")
  else match session.store.file path with
    | .error _ => .error ("grep: " ++ file ++ ": No such file or directory")
    | .ok found =>
      let title := if 1 < search.files.length then file ++ ":" else ""
      let found := ((Text.lines found.content).zipIdx 1).filter fun (line, _) => search.admits line
      .ok (found.map fun (line, i) => title ++ toString i ++ ":" ++ line)

/-- Shows the lines of files that hold a pattern. A file that cannot be read makes the code 2. -/
def grep (s : Surroundings) (session : Session) (args : List String) : Outcome :=
  match lineSearch? args with
  | none =>
    .error (.usage "grep: missing pattern or file\nUsage: grep [-i] <pattern> <file>...")
  | some search =>
    let answers : Answers (List String) := search.files.map (matchingLines s session search)
    let lines := answers.values.flatten
    let messages := answers.messages
    if !messages.isEmpty then .ok ⟨Text.joinLines lines, Text.joinLines messages, 2⟩
    else if lines.isEmpty then .ok (.ok ("No matches found for '" ++ search.pattern ++ "'"))
    else .ok (.ok (Text.joinLines lines))

/-! ## Paths -/

/-- The filters of `find`; a filter that is not given admits everything. -/
structure PathSearch where
  /-- A text that the path holds. -/
  pattern : Option String
  /-- A pattern for the last segment. -/
  name : Option String
  /-- Whether directories or files are wanted. -/
  directories : Option Bool

/-- Reads the arguments; of several filters of one sort the last one counts. -/
def pathSearch (search : PathSearch) : List String → Except Failure PathSearch
  | [] => .ok search
  | "-name" :: args =>
    match args with
    | [] => .error (.usage "find: missing argument to `-name'")
    | name :: args => pathSearch { search with name := some name } args
  | "-type" :: args =>
    match args with
    | [] => .error (.usage "find: missing argument to `-type'")
    | "f" :: args => pathSearch { search with directories := some false } args
    | "d" :: args => pathSearch { search with directories := some true } args
    | kind :: _ => .error (.usage ("find: unknown argument to -type: " ++ kind))
  | arg :: args =>
    if Text.startsWith arg "-" then .error (.usage ("find: unknown predicate `" ++ arg ++ "'"))
    else pathSearch { search with pattern := some arg } args

/-- The path passes the filters. An empty name pattern and the pattern `*` filter nothing. -/
def PathSearch.admits (search : PathSearch) : Store.Found → Bool
  | (path, isDirectory) =>
    search.directories.all (· == isDirectory) &&
      search.name.all (fun name => name = "" || Text.globMatches name (Path.name path)) &&
      search.pattern.all (fun pattern => pattern = "*" || Text.contains path pattern)

/-- Shows the paths at and below the working directory that pass the filters, in order. -/
def find (_ : Surroundings) (session : Session) (args : List String) : Outcome := do
  let search ← pathSearch ⟨none, none, none⟩ args
  match session.store.walk session.store.cwd with
  | .error error => throw (.refused error.message)
  | .ok found => return .ok (Text.joinLines ((found.filter search.admits).map (·.1)))

/-- The commands of this module. -/
def searchingCommands : List Command := [
  ⟨⟨"grep", "Search for a pattern in files", "grep [-i] <pattern> <file>...", "core", .never⟩,
    .view grep⟩,
  ⟨⟨"find", "Search for files in a directory hierarchy",
    "find [pattern] [-name glob] [-type f|d]", "core", .never⟩, .view find⟩]

end Builtin
end EditorShell

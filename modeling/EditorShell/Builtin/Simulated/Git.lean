import EditorShell.Builtin.Flags
import EditorShell.Command
import EditorShell.Digest.Sha1

/-!
# A simulated version control

`git` answers as if the project were a repository with one branch in which nothing was ever
committed. It changes nothing.
-/

namespace EditorShell
namespace Builtin
namespace Git

/-- The version that is shown. -/
def version : String := "2.40.0"

/-- The only branch. -/
def branch : String := "main"

/-- The overview of the subcommands. -/
def overview : String := Text.joinLines [
  "usage: git <command> [<args>]",
  "",
  "These are common Git commands:",
  "   init       Create an empty Git repository",
  "   clone      Clone a repository into a new directory",
  "   status     Show the working tree status",
  "   add        Add file contents to the index",
  "   commit     Record changes to the repository",
  "   log        Show commit logs",
  "   branch     List branches",
  "   checkout   Switch branches",
  "   diff       Show changes between commits",
  "   pull       Fetch from and integrate with another repository",
  "   push       Update remote refs"]

/-- The working directory without slashes at its end. -/
def directory (session : Session) : String := Text.trimEnd (· == '/') session.store.cwd

/-- Everything in the working directory that is not hidden counts as untracked. -/
def status (session : Session) : String :=
  let names := ((session.store.children session.store.cwd).filter fun child =>
    !Text.startsWith child.name ".").map fun child =>
      "\t" ++ if child.isDirectory then child.name ++ "/" else child.name
  if names.isEmpty then "On branch " ++ branch ++ "\nnothing to commit, working tree clean"
  else
    Text.joinLines <| ["On branch " ++ branch, "", "Untracked files:",
      "  (use \"git add <file>...\" to include in what will be committed)"] ++ names ++
      ["", "nothing added to commit but untracked files present (use \"git add\" to track)"]

/-- The message of a commit: the argument after the last option for it. -/
def commitMessage (message : Option String) : List String → Except Failure (Option String)
  | [] => .ok message
  | arg :: args =>
    if arg = "-m" || arg = "--message" then
      match args with
      | [] => .error (.usage "error: switch `m' requires a value")
      | text :: rest => commitMessage (some text) (text :: rest)
    else commitMessage message args

/-- A commit of every file at and below the working directory. -/
def commit (session : Session) (args : List String) : Outcome := do
  match ← commitMessage none args with
  | none => throw (.usage "Aborting commit due to empty commit message.")
  | some message =>
    match session.store.walk session.store.cwd with
    | .error error => throw (.refused error.message)
    | .ok found =>
      let changed := (found.filter fun (_, isDirectory) => !isDirectory).length
      let noun := if changed = 1 then "file" else "files"
      return .ok ("[" ++ branch ++ " " ++ Text.take 7 (Digest.sha1 message) ++ "] " ++ message ++
        "\n " ++ toString changed ++ " " ++ noun ++ " changed")

/-- A log of one commit, whose digest is that of its author. -/
def log (s : Surroundings) (session : Session) : String :=
  let author := session.user s.settings
  Text.joinLines ["commit " ++ Digest.sha1 author,
    "Author: " ++ author ++ " <" ++ author ++ "@localhost>", "", "    Initial commit"]

/-- A clone into the directory that is given, or into the one that the URL ends in. -/
def clone (args : List String) : Outcome :=
  match withoutHyphen args with
  | [] => .error (.usage "fatal: You must specify a repository to clone.")
  | url :: rest =>
    let target := rest.head?.getD <|
      Text.withoutEnding ".git" (Path.name (Text.trimEnd (· == '/') url))
    .ok <| .ok <| Text.joinLines ["Cloning into '" ++ target ++ "'...",
      "remote: Enumerating objects: done.", "Receiving objects: 100%, done."]

/-- A switch to a branch. -/
def switch (subcommand : String) : List String → Outcome
  | [] => .error (.usage ("git " ++ subcommand ++ ": missing branch name"))
  | [name] => .ok (.ok ("Switched to branch '" ++ name ++ "'"))
  | option :: name :: _ =>
    if option = "-b" || option = "-c" then
      .ok (.ok ("Switched to a new branch '" ++ name ++ "'"))
    else .ok (.ok ("Switched to branch '" ++ option ++ "'"))

/-- Answers by the subcommand; one that is not known is no failure. -/
def git (s : Surroundings) (session : Session) (args : List String) : Outcome :=
  match args with
  | [] => .ok (.ok overview)
  | subcommand :: rest =>
    match subcommand with
    | "help" | "--help" | "-h" => .ok (.ok overview)
    | "version" | "--version" => .ok (.ok ("git version " ++ version))
    | "init" =>
      .ok (.ok ("Initialized empty Git repository in " ++ directory session ++ "/.git/"))
    | "status" => .ok (.ok (status session))
    | "add" | "diff" | "fetch" => .ok .silent
    | "commit" => commit session rest
    | "log" => .ok (.ok (log s session))
    | "branch" => .ok (.ok ("* " ++ branch))
    | "checkout" | "switch" => switch subcommand rest
    | "clone" => clone rest
    | "pull" => .ok (.ok "Already up to date.")
    | "push" => .ok (.ok "Everything up-to-date")
    | _ =>
      .ok (.ok ("git: '" ++ subcommand ++ "' is not a git command. See 'git --help'.\n\n" ++
        overview))

/-- The command of this module. -/
def command : Command :=
  ⟨⟨"git", "Version control (simulated)", "git <command> [<args>]", "git",
    .onSubcommands ["clone", "pull", "push", "fetch"]⟩, .view git⟩

end Git
end Builtin
end EditorShell

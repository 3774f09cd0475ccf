import EditorShell.Builtin.Flags
import EditorShell.Command
import EditorShell.Store.Relocate

/-!
# Commands that change files

`touch`, `mkdir`, `rm`, `cp` and `mv` are the only commands that change the store. The first three
go through their operands from left to right; what one operand does is seen by the next, and an
operand that fails adds a message. The other two act once or fail.
-/

namespace EditorShell
namespace Builtin

/-- A session on the way through the operands, with the messages so far. -/
structure Progress where
  session : Session
  messages : List String

namespace Progress

/-- One more message. -/
def say (progress : Progress) (message : String) : Progress :=
  { progress with messages := progress.messages ++ [message] }

/-- Another store. -/
def withStore (progress : Progress) (store : Store) : Progress :=
  { progress with session := { progress.session with store := store } }

/-- What the command answers when it has seen all operands. -/
def finish (progress : Progress) : Session × Outcome :=
  (progress.session, .ok (.ofMessages progress.messages))

end Progress

/-! ## Operand by operand -/

/-- Creates an empty file unless something is there. -/
def touchOne (settings : Settings) (progress : Progress) (arg : String) : Progress :=
  match progress.session.store.touch (progress.session.resolve settings arg) with
  | .ok store => progress.withStore store
  | .error _ => progress.say ("touch: cannot touch '" ++ arg ++ "': No such file or directory")

/-- Creates empty files at the operands where nothing is yet. -/
def touch (s : Surroundings) (session : Session) (args : List String) : Session × Outcome :=
  if args.isEmpty then (session, .error (.usage "touch: missing file operand"))
  else (args.foldl (touchOne s.settings) ⟨session, []⟩).finish

/-- Why a directory was not created, as `mkdir` says it. -/
def mkdirReason : StoreError → String
  | .alreadyExists _ => "File exists"
  | .notFound _ => "No such file or directory"
  | _ => "Not a directory"

/-- Creates a directory. -/
def mkdirOne (settings : Settings) (parents : Bool) (progress : Progress) (arg : String) :
    Progress :=
  match progress.session.store.createDirectory (progress.session.resolve settings arg) parents with
  | .ok store => progress.withStore store
  | .error error =>
    progress.say ("mkdir: cannot create directory '" ++ arg ++ "': " ++ mkdirReason error)

/-- Creates directories, with `-p` the ones above them too. -/
def mkdir (s : Surroundings) (session : Session) (args : List String) : Session × Outcome :=
  let parents := (flags args).any fun f => f == "p" || f == "parents"
  if (operands args).isEmpty then (session, .error (.usage "mkdir: missing operand"))
  else ((operands args).foldl (mkdirOne s.settings parents) ⟨session, []⟩).finish

/-- How `rm` was asked to remove. -/
structure RemovalMode where
  recursive : Bool
  force : Bool

/-- Removes a file or directory. A refusal that is no message of `rm` itself ends the command. -/
def rmOne (settings : Settings) (mode : RemovalMode) (progress : Progress) (arg : String) :
    Except StoreError Progress :=
  let store := progress.session.store
  let path := progress.session.resolve settings arg
  if path = Path.root then
    .ok (progress.say "rm: it is dangerous to operate recursively on '/'")
  else if store.isFile path then (store.deleteFile path).map progress.withStore
  else if store.isDirectory path then
    match store.deleteDirectory path mode.recursive with
    | .ok store => .ok (progress.withStore store)
    | .error (.notEmpty _) =>
      .ok (progress.say ("rm: cannot remove '" ++ arg ++ "': Directory not empty"))
    | .error error => .error error
  else if mode.force then .ok progress
  else .ok (progress.say ("rm: cannot remove '" ++ arg ++ "': No such file or directory"))

/-- Goes through the operands of `rm`. -/
def rmAll (settings : Settings) (mode : RemovalMode) (progress : Progress) :
    List String → Session × Outcome
  | [] => progress.finish
  | arg :: args =>
    match rmOne settings mode progress arg with
    | .ok progress => rmAll settings mode progress args
    | .error error => (progress.session, .error (.refused error.message))

/-- Removes files and empty directories, with `-r` directories and all they hold. With `-f` what is
missing is no failure, nor is an empty list of operands. -/
def rm (s : Surroundings) (session : Session) (args : List String) : Session × Outcome :=
  let mode : RemovalMode := {
    recursive := (flags args).any fun f => f == "r" || f == "R" || f == "recursive"
    force := (flags args).any fun f => f == "f" || f == "force" }
  if (operands args).isEmpty then
    if mode.force then (session, .ok .silent)
    else (session, .error (.usage "rm: missing operand"))
  else rmAll s.settings mode ⟨session, []⟩ (operands args)

/-! ## Copying and moving -/

/-- Where `source` goes: into `target` if that is a directory, else to `target` itself. -/
def destination (store : Store) (source target : String) : String :=
  if store.isDirectory target then Path.child target (Path.name source) else target

/-- The session after an attempt on its store; `explain` puts a refusal into the words of the
command. -/
def afterAttempt (session : Session) (explain : StoreError → String) :
    Store.Attempt → Session × Outcome
  | (store, none) => ({ session with store := store }, .ok .silent)
  | (store, some error) =>
    ({ session with store := store }, .error (.refused (explain error)))

/-- Source and target of a command that takes these two operands. -/
def sourceAndTarget (command : String) (args : List String) : Except Failure (String × String) :=
  match operands args with
  | [source, target] => .ok (source, target)
  | [] => .error (.usage (command ++ ": missing file operand"))
  | first :: _ =>
    .error (.usage (command ++ ": missing destination file operand after '" ++ first ++ "'"))

/-- Why a directory was not copied. -/
def copyDirectoryReason (target : String) : StoreError → String
  | .alreadyExists _ => "cp: cannot overwrite directory '" ++ target ++ "'"
  | .notFound _ => "cp: cannot create directory '" ++ target ++ "': No such file or directory"
  | error => error.message

/-- Why a file was not copied. -/
def copyFileReason (target path : String) : StoreError → String
  | .notFound _ => "cp: cannot create regular file '" ++ target ++ "': No such file or directory"
  | .alreadyExists path => path ++ ": File exists"
  | _ => "cp: cannot overwrite directory '" ++ path ++ "' with non-directory"

/-- Copies a file, or with `-r` a directory, to a path or into a directory. -/
def cp (s : Surroundings) (session : Session) (args : List String) : Session × Outcome :=
  match sourceAndTarget "cp" args with
  | .error failure => (session, .error failure)
  | .ok (sourceArg, targetArg) =>
    let store := session.store
    let source := session.resolve s.settings sourceArg
    let path := destination store source (session.resolve s.settings targetArg)
    let refuse (message : String) : Session × Outcome := (session, .error (.refused message))
    if store.isDirectory source then
      if !(flags args).any fun f => f == "r" || f == "R" || f == "recursive" then
        refuse ("cp: -r not specified; omitting directory '" ++ sourceArg ++ "'")
      else if Path.isWithin path source then
        refuse ("cp: cannot copy a directory, '" ++ sourceArg ++ "', into itself, '" ++ targetArg
          ++ "'")
      else afterAttempt session (copyDirectoryReason targetArg) (store.copyDirectory source path)
    else if !store.isFile source then
      refuse ("cp: cannot stat '" ++ sourceArg ++ "': No such file or directory")
    else if path = source then
      refuse ("cp: '" ++ sourceArg ++ "' and '" ++ targetArg ++ "' are the same file")
    else
      afterAttempt session (copyFileReason targetArg path)
        (store.attempt (store.copyFile source path))

/-- Why a directory was not moved. -/
def moveDirectoryReason (store : Store) (source target path : String) : StoreError → String
  | .alreadyExists _ =>
    if store.isFile path then
      "mv: cannot overwrite non-directory '" ++ path ++ "' with directory '" ++ source ++ "'"
    else "mv: cannot move '" ++ source ++ "' to '" ++ path ++ "': Directory not empty"
  | .notFound _ =>
    "mv: cannot move '" ++ source ++ "' to '" ++ target ++ "': No such file or directory"
  | error => error.message

/-- Why a file was not moved. -/
def moveFileReason (source target path : String) : StoreError → String
  | .notFound _ =>
    "mv: cannot move '" ++ source ++ "' to '" ++ target ++ "': No such file or directory"
  | .alreadyExists path => path ++ ": File exists"
  | _ => "mv: cannot overwrite directory '" ++ path ++ "' with non-directory"

/-- Moves a file or a directory to a path or into a directory. Moving a path onto itself does
nothing. -/
def mv (s : Surroundings) (session : Session) (args : List String) : Session × Outcome :=
  match sourceAndTarget "mv" args with
  | .error failure => (session, .error failure)
  | .ok (sourceArg, targetArg) =>
    let store := session.store
    let source := session.resolve s.settings sourceArg
    let path := destination store source (session.resolve s.settings targetArg)
    let refuse (message : String) : Session × Outcome := (session, .error (.refused message))
    if !store.isTaken source then
      refuse ("mv: cannot stat '" ++ sourceArg ++ "': No such file or directory")
    else if path = source then (session, .ok .silent)
    else if store.isDirectory source then
      if source = Path.root || Path.isBelow path source then
        refuse ("mv: cannot move '" ++ sourceArg ++ "' to a subdirectory of itself, '" ++ targetArg
          ++ "'")
      else
        afterAttempt session (moveDirectoryReason store sourceArg targetArg path)
          (store.moveDirectory source path)
    else
      afterAttempt session (moveFileReason sourceArg targetArg path) (store.moveFile source path)

/-- The commands of this module. -/
def editingCommands : List Command := [
  ⟨⟨"touch", "Create empty file", "touch <file>...", "core", .never⟩, .edit touch⟩,
  ⟨⟨"mkdir", "Create directories", "mkdir [-p] <dir>...", "core", .never⟩, .edit mkdir⟩,
  ⟨⟨"rm", "Remove files or directories", "rm [-r] [-f] <path>...", "core", .never⟩, .edit rm⟩,
  ⟨⟨"cp", "Copy files and directories", "cp [-r] <source> <dest>", "core", .never⟩, .edit cp⟩,
  ⟨⟨"mv", "Move or rename files and directories", "mv <source> <dest>", "core", .never⟩, .edit mv⟩]

end Builtin
end EditorShell

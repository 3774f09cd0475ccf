import EditorShell.Command
import EditorShell.Text.Digits

/-!
# Commands about the shell itself

`help` and `which` tell what commands there are, `history` what was run, and `clear` empties the
screen.
-/

namespace EditorShell
namespace Builtin

/-- Clears the screen and moves the cursor to its corner. -/
def clearScreen : String := "\x1b[2J\x1b[H"

/-- Clears the screen. -/
def clear (_ : Surroundings) (_ : Session) (_ : List String) : Outcome := .ok (.ok clearScreen)

/-! ## What there is -/

/-- The length of the longest text. -/
def widest (texts : List String) : Nat := texts.foldl (fun n s => max n s.length) 0

/-- The line that lists a command. -/
def helpLine (width : Nat) (info : CommandInfo) : String :=
  if info.description = "" then "  " ++ info.usage
  else "  " ++ Text.padRight width info.usage ++ "  - " ++ info.description

/-- The lines that list the aliases, if there are any. -/
def shortcutLines (aliases : Table String) : List String :=
  if aliases.isEmpty then []
  else ["", "Shortcuts:"] ++ aliases.sorted.map fun (name, text) =>
    "  " ++ Text.padRight (widest aliases.keys) name ++ "  - " ++ text

/-- Lists the commands and the aliases, or shows the usage of one command. -/
def help (s : Surroundings) (session : Session) (args : List String) : Outcome :=
  match args with
  | [] =>
    let infos := s.commands.sorted.map (·.2)
    .ok <| .ok <| Text.joinLines <| "Available commands:" ::
      infos.map (helpLine (widest (infos.map (·.usage)))) ++ shortcutLines session.aliases
  | topic :: _ =>
    match s.commands.get? topic with
    | none => .ok (.fail ("help: no help topics match '" ++ topic ++ "'") 1)
    | some info => .ok (.ok (info.usage ++ "\n    " ++ info.description))

/-- Where a name leads, if anywhere. -/
def location? (s : Surroundings) (session : Session) (name : String) : Option String :=
  match session.aliases.get? name with
  | some text => some (name ++ ": aliased to " ++ text)
  | none => if s.commands.contains name then some ("/usr/bin/" ++ name) else none

/-- Tells where names lead; the code is 1 if one of them leads nowhere or none is given. -/
def which (s : Surroundings) (session : Session) (args : List String) : Outcome :=
  let found := args.filterMap (location? s session)
  .ok ⟨Text.joinLines found, "", if args.isEmpty || found.length < args.length then 1 else 0⟩

/-! ## What was run -/

/-- The lines of the last `count` entries. -/
def historyText (session : Session) (count : Option Int) : String :=
  Text.joinLines ((session.history.recent count).map fun (i, entry) =>
    toString i ++ "  " ++ entry.command)

/-- Shows the last entries of the history, or all of them, or forgets them with `-c`. -/
def history (_ : Surroundings) (session : Session) (args : List String) : Session × Outcome :=
  if args.contains "-c" then
    ({ session with history := session.history.clear }, .ok .silent)
  else match args with
    | [] => (session, .ok (.ok (historyText session none)))
    | count :: _ =>
      match Text.readInt? count with
      | none => (session, .error (.usage ("history: " ++ count ++ ": numeric argument required")))
      | some n => (session, .ok (.ok (historyText session (some n))))

/-- The commands of this module. -/
def terminalCommands : List Command := [
  ⟨⟨"help", "Show available commands", "help [command]", "core", .never⟩, .view help⟩,
  ⟨⟨"clear", "Clear terminal", "", "core", .never⟩, .view clear⟩,
  ⟨⟨"history", "Show command history", "history [n] [-c]", "core", .never⟩, .edit history⟩,
  ⟨⟨"which", "Locate a command", "which <command>...", "core", .never⟩, .view which⟩]

end Builtin
end EditorShell

import EditorShell.Command
import EditorShell.Line.Variable

/-!
# Commands about the environment and the aliases

`env`, `export`, `unset` and `whoami` show and change the variables of the session, `alias` and
`unalias` its aliases.
-/

namespace EditorShell
namespace Builtin

/-! ## Variables -/

/-- All variables with their values, in order of their names. -/
def environmentText (session : Session) : String :=
  Text.joinLines (session.environment.sorted.map fun (name, value) => name ++ "=" ++ value)

/-- Shows all variables. -/
def env (_ : Surroundings) (session : Session) (_ : List String) : Outcome :=
  .ok (.ok (environmentText session))

/-- The text is a name that `export` takes for a variable. A line feed may follow the name. -/
def isVariableName (s : String) : Bool :=
  Variable.isName s.toList ||
    (s.toList.getLast? == some '\n' && Variable.isName s.toList.dropLast)

/-- Sets the variable of one argument `name=value`; a bare name is checked and nothing more. -/
def exportOne (session : Session) (arg : String) : Except String Session :=
  let (name, value) := Text.partition '=' arg
  if !isVariableName name then .error ("export: `" ++ arg ++ "': not a valid identifier")
  else match value with
    | none => .ok session
    | some value => .ok { session with environment := session.environment.set name value }

/-- Sets the variables of all arguments, passing over those that are refused. -/
def exportAll (session : Session) : List String → Session × List String
  | [] => (session, [])
  | arg :: args =>
    match exportOne session arg with
    | .ok session => exportAll session args
    | .error message =>
      let (session, messages) := exportAll session args
      (session, message :: messages)

/-- Sets variables, or shows all of them if none is given. -/
def exportVariables (_ : Surroundings) (session : Session) (args : List String) :
    Session × Outcome :=
  if args.isEmpty then (session, .ok (.ok (environmentText session)))
  else
    let (session, messages) := exportAll session args
    (session, .ok (.ofMessages messages))

/-- Removes variables. -/
def unsetVariables (_ : Surroundings) (session : Session) (args : List String) :
    Session × Outcome :=
  ({ session with environment := args.foldl Table.erase session.environment }, .ok .silent)

/-- Shows the user. -/
def whoami (s : Surroundings) (session : Session) (_ : List String) : Outcome :=
  .ok (.ok (session.user s.settings))

/-! ## Aliases -/

/-- An alias as it is listed. -/
def aliasText (name text : String) : String := "alias " ++ name ++ "='" ++ text ++ "'"

/-- The aliases on the way through the arguments, with the lines and the messages so far. -/
structure AliasProgress where
  aliases : Table String
  lines : List String
  messages : List String

/-- Defines an alias by `name=text`, or lists the one of that name. -/
def aliasOne (progress : AliasProgress) (arg : String) : AliasProgress :=
  match Text.partition '=' arg with
  | (name, some text) =>
    if name = "" || name.toList.contains '/' then
      { progress with
        messages := progress.messages ++ ["alias: `" ++ arg ++ "': invalid alias name"] }
    else { progress with aliases := progress.aliases.set name text }
  | (name, none) =>
    match progress.aliases.get? name with
    | some text => { progress with lines := progress.lines ++ [aliasText name text] }
    | none =>
      { progress with messages := progress.messages ++ ["alias: " ++ name ++ ": not found"] }

/-- Defines and lists aliases, or lists all of them if none is given. -/
def defineAliases (_ : Surroundings) (session : Session) (args : List String) : Session × Outcome :=
  if args.isEmpty then
    let lines := session.aliases.sorted.map fun (name, text) => aliasText name text
    (session, .ok (.ok (Text.joinLines lines)))
  else
    let progress := args.foldl aliasOne ⟨session.aliases, [], []⟩
    ({ session with aliases := progress.aliases },
      .ok ⟨Text.joinLines progress.lines, Text.joinLines progress.messages,
        if progress.messages.isEmpty then 0 else 1⟩)

/-- Removes aliases; those that are not there are named. -/
def unaliasAll (aliases : Table String) : List String → Table String × List String
  | [] => (aliases, [])
  | name :: names =>
    let (rest, messages) := unaliasAll (aliases.erase name) names
    if aliases.contains name then (rest, messages)
    else (rest, ("unalias: " ++ name ++ ": not found") :: messages)

/-- Removes aliases; those that are not there are named. -/
def removeAliases (_ : Surroundings) (session : Session) (args : List String) : Session × Outcome :=
  if args.isEmpty then (session, .error (.usage "unalias: usage: unalias name [name ...]"))
  else
    let (aliases, messages) := unaliasAll session.aliases args
    ({ session with aliases := aliases }, .ok (.ofMessages messages))

/-- The commands of this module. -/
def variableCommands : List Command := [
  ⟨⟨"env", "Show environment variables", "", "core", .never⟩, .view env⟩,
  ⟨⟨"export", "Set environment variable", "export <var>=<value>", "core", .never⟩,
    .edit exportVariables⟩,
  ⟨⟨"unset", "Remove environment variable", "unset <var>...", "core", .never⟩,
    .edit unsetVariables⟩,
  ⟨⟨"whoami", "Print the current user", "", "core", .never⟩, .view whoami⟩,
  ⟨⟨"alias", "Define or list aliases", "alias [name=value]", "core", .never⟩, .edit defineAliases⟩,
  ⟨⟨"unalias", "Remove aliases", "unalias <name>...", "core", .never⟩, .edit removeAliases⟩]

end Builtin
end EditorShell

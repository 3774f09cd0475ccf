import EditorShell.Command.Catalog

/-!
# Calls that enter commands

The modules of a shell fill its catalog by calls, each for one command: under its name alone, or
under its name and aliases. A call that meets a name in use is refused, and the calls after it go on
with what it leaves.
-/

namespace EditorShell

/-- A call that enters a command. -/
inductive Registration where
  | plain (command : Command)
  | aliased (command : Command) (aliases : List String)

/-- The command that the call is for. -/
def Registration.command : Registration → Command
  | .plain command => command
  | .aliased command _ => command

/-- The further names that the call is to enter. -/
def Registration.aliases : Registration → List String
  | .plain _ => []
  | .aliased _ aliases => aliases

namespace Catalog

/-- Carries out a call, and tells the name at which it is refused. -/
def register (catalog : Catalog) : Registration → Catalog × Option NameInUse
  | .plain command =>
    match catalog.enter command with
    | .ok entered => (entered, none)
    | .error error => (catalog, some error)
  | .aliased command aliases => catalog.enterWithAliases command aliases

/-- Carries out calls one after the other, with their answers. -/
def registerAll (catalog : Catalog) : List Registration → Catalog × List (Option NameInUse)
  | [] => (catalog, [])
  | call :: calls =>
    let (next, answer) := catalog.register call
    let (last, answers) := registerAll next calls
    (last, answer :: answers)

end Catalog
end EditorShell

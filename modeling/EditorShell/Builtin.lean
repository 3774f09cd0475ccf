import EditorShell.Builtin.Editing
import EditorShell.Builtin.Listing
import EditorShell.Builtin.Reading
import EditorShell.Builtin.Searching
import EditorShell.Builtin.Simulated.Git
import EditorShell.Builtin.Simulated.Packages
import EditorShell.Builtin.Simulated.Runtimes
import EditorShell.Builtin.Simulated.Transfer
import EditorShell.Builtin.Terminal
import EditorShell.Builtin.Variables
import EditorShell.Command.Catalog

/-!
# The built-in commands
-/

namespace EditorShell
namespace Builtin

/-- The commands that go by one name. -/
def plainCommands : List Command :=
  editingCommands ++ readingCommands ++ listingCommands ++ searchingCommands ++ variableCommands ++
    terminalCommands ++ [Git.command] ++ Transfer.commands ++
    [Packages.npxCommand, Runtimes.nodeCommand, Runtimes.serveCommand]

/-- The commands that go by several names, with the further names. -/
def aliasedCommands : List (Command × List String) :=
  [(Packages.managerCommand, ["yarn", "pnpm"]), (Runtimes.pythonCommand, ["python3"]),
    (Packages.pipCommand, ["pip3"])]

/-- All built-in commands. -/
def catalog : Catalog :=
  aliasedCommands.foldl (fun catalog (command, names) => (catalog.enterWithAliases command names).1)
    (Catalog.enterAll .empty plainCommands).1

end Builtin
end EditorShell

import EditorShell.Command
import EditorShell.Text.Quoted

/-!
# The catalog of commands

Commands are entered once, under names that are not in use. A command may be entered together with
aliases, under each of which it then stands with a usage of its own.
-/

namespace EditorShell

/-- The name is in use. -/
structure NameInUse where
  name : String
deriving DecidableEq, Repr

/-- The refusal in words. -/
def NameInUse.message (error : NameInUse) : String :=
  "Command " ++ Text.quoted error.name ++ " is already registered"

/-- Commands in the order in which they were entered. -/
abbrev Catalog := Table Command

namespace Catalog

/-- Enters a command under its name. Without a usage it is used by its name alone. -/
def enter (catalog : Catalog) (command : Command) : Except NameInUse Catalog :=
  let info := command.info
  if catalog.contains info.name then .error ⟨info.name⟩
  else
    let usage := if info.usage = "" then info.name else info.usage
    .ok (catalog.set info.name { command with info := { info with usage := usage } })

/-- The command as it is entered under an alias: the first place where the usage names it names the
alias instead. -/
def renamed (command : Command) (name : String) : Command :=
  { command with
    info := { command.info with
      name := name, usage := Text.replaceFirst command.info.name name command.info.usage } }

/-- Enters commands in order, up to the first whose name is in use. -/
def enterAll (catalog : Catalog) : List Command → Catalog × Option NameInUse
  | [] => (catalog, none)
  | command :: commands =>
    match catalog.enter command with
    | .error error => (catalog, some error)
    | .ok catalog => enterAll catalog commands

/-- Enters a command under its name and its aliases. -/
def enterWithAliases (catalog : Catalog) (command : Command) (aliases : List String) :
    Catalog × Option NameInUse :=
  catalog.enterAll ((command.info.name :: aliases).map (renamed command))

/-- The commands in order, of these groups or of all. -/
def list (catalog : Catalog) (groups : Option (List String)) : List Command :=
  (catalog.entries.map (·.2)).filter fun command =>
    match groups with
    | none => true
    | some groups => groups.contains command.info.group

end Catalog
end EditorShell

import EditorShell.Builtin.Flags
import EditorShell.Command
import EditorShell.Json.Reader
import EditorShell.Text.Blank
import EditorShell.Text.Lines

/-!
# Simulated package managers

`npm`, `yarn` and `pnpm` share one behaviour and read the manifest `package.json` of the working
directory; `npx` and `pip` answer without one. None of them installs anything.

A manifest that is missing, no JSON or no object stands for an empty one. Its keys and texts may
hold lone units, so they are kept as symbols.
-/

namespace EditorShell
namespace Builtin
namespace Packages

/-! ## Manifests -/

/-- The members of a manifest, or of an object in it. -/
abbrev Members := List (List Text.Symbol × Json (List Text.Symbol))

/-- The failure on a manifest with a number that is too long. -/
def oversizedNumber (digits : Nat) : Failure :=
  .crashed ("Exceeds the limit (4300 digits) for integer string conversion: value has " ++
    toString digits ++ " digits; use sys.set_int_max_str_digits() to increase the limit")

/-- The manifest in the working directory. -/
def manifest (s : Surroundings) (session : Session) : Except Failure Members :=
  match session.store.file (session.resolve s.settings "package.json") with
  | .error _ => .ok []
  | .ok file =>
    match Json.read .keeping file.content with
    | .ok v => .ok (v.members?.getD [])
    | .error .malformed => .ok []
    | .error (.oversized digits) => .error (oversizedNumber digits)

/-- The value of a manifest under a key. -/
def field? (manifest : Members) (key : String) : Option (Json (List Text.Symbol)) :=
  manifest.lookup (Text.symbols key)

/-- The scripts that are known when a manifest names none. -/
def defaultScripts : Members :=
  [("dev", "vite"), ("build", "vite build"), ("preview", "vite preview")].map fun (name, body) =>
    (Text.symbols name, .string (Text.symbols body))

/-- The scripts that a manifest stands for. -/
def scripts (manifest : Members) : Members :=
  match field? manifest "scripts" with
  | some (.object (entry :: entries)) => entry :: entries
  | _ => defaultScripts

/-- The answer of the scripts that start or build something. -/
def cannedAnswer? : String → Option String
  | "dev" | "start" =>
    some "Starting development server...\n✓ Server running on http://localhost:3000"
  | "build" => some "Building project...\n✓ Build completed successfully!"
  | "preview" =>
    some "Starting preview server...\n✓ Preview server running on http://localhost:4173"
  | "test" => some "Running tests...\n✓ All tests passed!"
  | _ => none

/-- Runs a script, or lists the scripts. -/
def runScript (scripts : Members) : List String → Result
  | [] =>
    .ok (Text.joinLines ("Available scripts:" :: scripts.map fun (name, body) =>
      "  " ++ Text.replacedText name ++ ": " ++ body.plain))
  | script :: _ =>
    match field? scripts script with
    | none => .fail ("Error: Missing script: \"" ++ script ++ "\"") 1
    | some body =>
      match cannedAnswer? script with
      | some answer => .ok answer
      | none =>
        .ok ("> " ++ script ++ "\n> " ++ body.plain ++ "\n\n✓ Script completed successfully!")

/-- The entries of a section of the manifest, if it is an object. -/
def sectionEntries (manifest : Members) (key : String) : Members :=
  ((field? manifest key).bind Json.members?).getD []

/-- The dependencies of a manifest in order of their names; a later section overrides an earlier
one. -/
def dependencies (manifest : Members) : Members :=
  let entries := sectionEntries manifest "dependencies" ++ sectionEntries manifest "devDependencies"
  (entries.foldl (fun found (name, version) => Table.setIn name version found) []).mergeSort
    fun a b => Text.codesLE a.1 b.1

/-- The branches of a tree of one level. -/
def branches : List String → List String
  | [] => []
  | [last] => ["└── " ++ last]
  | text :: texts => ("├── " ++ text) :: branches texts

/-- The name and the version of the project, and its dependencies without the sign in front of a
version. -/
def listPackages (manifest : Members) (cwd : String) : Result :=
  let field (key default : String) : String := ((field? manifest key).map Json.plain).getD default
  let packages := (dependencies manifest).map fun (name, version) =>
    Text.replacedText name ++ "@" ++ Text.trimStart (fun c => c == '^' || c == '~') version.plain
  .ok <| Text.joinLines <|
    (field "name" "project" ++ "@" ++ field "version" "1.0.0" ++ " " ++ cwd) ::
      branches (if packages.isEmpty then ["(empty)"] else packages)

/-! ## Managers -/

/-- The version of a manager. -/
def managerVersion? : String → Option String
  | "npm" => some "9.0.0"
  | "yarn" => some "1.22.19"
  | "pnpm" => some "8.6.0"
  | _ => none

/-- The version of the runtime that the managers name. -/
def nodeVersion : String := "18.0.0"

/-- The overview of the subcommands of a manager. -/
def managerOverview (tool : String) : String :=
  Text.joinLines <| [tool ++ " <command>", "", "Usage:"] ++
    (["install [package...]", "uninstall <package...>", "run <script>", "test", "start", "build",
      "list", "version"].map fun form => "  " ++ tool ++ " " ++ form)

/-- The subcommands that install. -/
def installing : List String := ["install", "i", "add", "ci"]

/-- The subcommands that remove. -/
def removing : List String := ["uninstall", "remove", "rm", "un"]

/-- Installs packages, or everything that the manifest names. -/
def install (args : List String) : Result :=
  let packages := withoutHyphen args
  if packages.isEmpty then
    .ok "Installing dependencies...\n✓ Dependencies installed successfully!"
  else
    .ok ("Installing " ++ ", ".intercalate packages ++ "...\n✓ Packages installed successfully!")

/-- Removes packages. -/
def remove (tool subcommand : String) (args : List String) : Outcome :=
  let packages := withoutHyphen args
  if packages.isEmpty then .error (.usage (tool ++ " " ++ subcommand ++ ": missing package name"))
  else
    .ok (.ok ("Removing " ++ ", ".intercalate packages ++ "...\n✓ Packages removed successfully!"))

/-- The manager by whose name the command was called, with its version. -/
def calledManager (s : Surroundings) : String × String :=
  match managerVersion? s.name with
  | some version => (s.name, version)
  | none => ("npm", "9.0.0")

/-- Answers for the manager by whose name it was called; an unknown subcommand is no failure. -/
def manager (s : Surroundings) (session : Session) (args : List String) : Outcome :=
  let (tool, version) := calledManager s
  match args with
  | [] => .ok (.ok (managerOverview tool))
  | subcommand :: rest =>
    if installing.contains subcommand then .ok (install rest)
    else if removing.contains subcommand then remove tool subcommand rest
    else match subcommand with
      | "-v" | "--version" => .ok (.ok version)
      | "run" => (manifest s session).map fun manifest => runScript (scripts manifest) rest
      | "test" | "start" | "build" => .ok (.ok ((cannedAnswer? subcommand).getD ""))
      | "version" => .ok (.ok (tool ++ ": " ++ version ++ "\nnode: " ++ nodeVersion))
      | "list" | "ls" =>
        (manifest s session).map fun manifest => listPackages manifest session.store.cwd
      | _ =>
        .ok (.ok (tool ++ ": '" ++ subcommand ++ "' is not a " ++ tool ++ " command. See '" ++
          tool ++ " help'.\n\n" ++ managerOverview tool))

/-- Answers as if a package had been run: the first argument that is no option. -/
def npx (_ : Surroundings) (_ : Session) (args : List String) : Outcome :=
  match withoutHyphen args with
  | [] => .error (.usage "npx: missing package name\nUsage: npx <package> [args...]")
  | package :: _ =>
    .ok (.ok ("Running " ++ package ++ "...\n✓ " ++ package ++ " finished successfully!"))

/-! ## The installer `pip` -/

/-- The overview of the subcommands. -/
def pipOverview : String := Text.joinLines [
  "Usage:",
  "  pip <command> [options]",
  "",
  "Commands:",
  "  install      Install packages.",
  "  uninstall    Uninstall packages.",
  "  list         List installed packages.",
  "  freeze       Output installed packages in requirements format."]

/-- The packages that a requirements file names: one to a line, without comments. -/
def requirements (s : Surroundings) (session : Session) (arg : String) :
    Except Failure (List String) :=
  match session.store.file (session.resolve s.settings arg) with
  | .error _ =>
    .error (.refused ("ERROR: Could not open requirements file: " ++
      "[Errno 2] No such file or directory: '" ++ arg ++ "'"))
  | .ok file =>
    .ok <| ((Text.lines file.content).map fun line =>
      Text.strip (Text.partition '#' line).1).filter (· ≠ "")

/-- The packages that the arguments of an installation name, files included. -/
def requested (s : Surroundings) (session : Session) : List String → Except Failure (List String)
  | [] => .ok []
  | arg :: args =>
    if arg = "-r" || arg = "--requirement" then
      match args with
      | [] => .error (.usage "ERROR: -r option requires 1 argument")
      | file :: args => do
        let packages ← requirements s session file
        return packages ++ (← requested s session args)
    else if Text.startsWith arg "-" then requested s session args
    else do return arg :: (← requested s session args)

/-- The failure when no package is named. -/
def noRequirement (verb : String) : Failure :=
  .usage ("ERROR: You must give at least one requirement to " ++ verb)

/-- Answers by the subcommand; one that is not known is no failure. -/
def pip (s : Surroundings) (session : Session) (args : List String) : Outcome :=
  match args with
  | [] => .ok (.ok pipOverview)
  | subcommand :: rest =>
    match subcommand with
    | "-V" | "--version" =>
      .ok (.ok "pip 23.1.2 from /usr/lib/python3/site-packages/pip (python 3.11)")
    | "install" => do
      let packages ← requested s session rest
      if packages.isEmpty then throw (noRequirement "install")
      return .ok (Text.joinLines (packages.map ("Collecting " ++ ·) ++
        ["Successfully installed " ++ " ".intercalate packages]))
    | "uninstall" =>
      let packages := withoutHyphen rest
      if packages.isEmpty then .error (noRequirement "uninstall")
      else .ok (.ok (Text.joinLines (packages.map ("Successfully uninstalled " ++ ·))))
    | "list" => .ok (.ok "Package    Version\n---------- -------\npip        23.1.2")
    | "freeze" => .ok .silent
    | _ => .ok (.ok ("ERROR: unknown command \"" ++ subcommand ++ "\"\n\n" ++ pipOverview))

/-- The package managers; the other two are aliases of the first. -/
def managerCommand : Command :=
  ⟨⟨"npm", "Node package manager (simulated)", "npm <command>", "tooling",
    .onSubcommands installing⟩, .view manager⟩

/-- The command that runs a package. -/
def npxCommand : Command :=
  ⟨⟨"npx", "Run a package binary (simulated)", "npx <package> [args...]", "tooling", .always⟩,
    .view npx⟩

/-- The installer. -/
def pipCommand : Command :=
  ⟨⟨"pip", "Python package installer (simulated)", "pip <command>", "tooling",
    .onSubcommands ["install"]⟩, .view pip⟩

end Packages
end Builtin
end EditorShell

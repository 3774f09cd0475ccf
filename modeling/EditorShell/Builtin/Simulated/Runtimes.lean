import EditorShell.Command
import EditorShell.Text.Digits

/-!
# Simulated runtimes and servers

`node` and `python` answer as if they had run a script, `serve` as if it served a directory. A
script or directory that is named must exist.
-/

namespace EditorShell
namespace Builtin
namespace Runtimes

/-- The answer after a script has run. -/
def executed (file : String) : Result :=
  .ok ("Executing " ++ file ++ "...\n✓ Script executed successfully!")

/-- Answers as if a script had been run, which must be a file. -/
def node (s : Surroundings) (session : Session) (args : List String) : Outcome :=
  match args with
  | [] => .ok (.ok "Node.js v18.0.0\nType \".help\" for more information.")
  | arg :: _ =>
    match arg with
    | "-v" | "--version" => .ok (.ok "v18.0.0")
    | "-e" | "--eval" => .ok (.ok "✓ Script executed successfully!")
    | file =>
      if session.store.isFile (session.resolve s.settings file) then .ok (executed file)
      else .error (.refused ("Error: Cannot find module '" ++ file ++ "'"))

/-- Answers as if a script, a module or a line of code had been run. -/
def python (s : Surroundings) (session : Session) (args : List String) : Outcome :=
  match args with
  | [] =>
    .ok (.ok ("Python 3.11.4\nType \"help\", \"copyright\", \"credits\" or \"license\" " ++
      "for more information."))
  | "-V" :: _ | "--version" :: _ => .ok (.ok "Python 3.11.4")
  | "-c" :: _ :: _ => .ok (.ok "✓ Script executed successfully!")
  | ["-c"] => .error (.usage "Argument expected for the -c option")
  | "-m" :: name :: _ =>
    .ok (.ok ("Running module " ++ name ++ "...\n✓ Module finished successfully!"))
  | ["-m"] => .error (.usage "Argument expected for the -m option")
  | file :: _ =>
    let path := session.resolve s.settings file
    if session.store.isFile path then .ok (executed file)
    else
      .ok (.fail (s.name ++ ": can't open file '" ++ path ++
        "': [Errno 2] No such file or directory") 2)

/-- What is served, and where. -/
structure Serving where
  /-- The number under which the server listens. -/
  number : String
  target : String

/-- Reads the arguments; the last number and the last directory count. -/
def serving (serve : Serving) : List String → Except Failure Serving
  | [] => .ok serve
  | arg :: args =>
    if ["-l", "-p", "--listen", "--port"].contains arg then
      match args with
      | [] => .error (.usage ("serve: option '" ++ arg ++ "' requires an argument"))
      | number :: args => serving { serve with number := number } args
    else serving { serve with target := arg } args

/-- Answers as if a directory were served; the number to listen on must be digits. -/
def serve (s : Surroundings) (session : Session) (args : List String) : Outcome := do
  let wanted ← serving ⟨"3000", "."⟩ args
  if !Text.isDigits wanted.number then
    throw (.usage ("serve: invalid port '" ++ wanted.number ++ "'"))
  let path := session.resolve s.settings wanted.target
  if !session.store.isDirectory path then
    throw (.refused ("serve: " ++ wanted.target ++ ": No such file or directory"))
  return .ok ("Serving " ++ path ++ "...\n✓ Server running on http://localhost:" ++ wanted.number)

/-- The runtime for scripts of the web. -/
def nodeCommand : Command :=
  ⟨⟨"node", "Run Node.js (simulated)", "node [file]", "tooling", .never⟩, .view node⟩

/-- The interpreter. -/
def pythonCommand : Command :=
  ⟨⟨"python", "Run Python (simulated)", "python [-c code | file]", "tooling", .never⟩,
    .view python⟩

/-- The server of static files. -/
def serveCommand : Command :=
  ⟨⟨"serve", "Serve a static directory (simulated)", "serve [-l port] [dir]", "tooling", .never⟩,
    .view serve⟩

end Runtimes
end Builtin
end EditorShell

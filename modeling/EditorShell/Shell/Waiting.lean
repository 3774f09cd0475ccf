import EditorShell.Shell

/-!
# Lines that wait

A line whose command uses the simulated network waits before the command runs. The line has been
read by then; whether its session is still there is looked up afterwards. Lines that are submitted
together are served one after the other, so that no line starts before the one before it has ended.
What goes on meanwhile can fail, and then the line that waits is not run.
-/

namespace EditorShell

/-- A line that has been read and waits. -/
structure Pending where
  raw : String
  /-- The command that waits. -/
  name : String
  line : CommandLine

/-- What becomes of a line that is submitted. -/
inductive Submission where
  | replied (reply : Reply)
  | waiting (pending : Pending)

namespace Shell

/-- The name of the command for which a line has to wait. -/
def waitsFor? (shell : Shell) (line : CommandLine) : Option String := do
  let name ← line.name
  let command ← shell.catalog.get? name
  if command.info.latency.waits line.args then some name else none

/-- Reads a line, and runs it unless it has to wait. -/
def submit (shell : Shell) (line : String) : Except SessionClosed Submission :=
  shell.require.map fun session =>
    let raw := Text.strip line
    if raw = "" then .replied ⟨shell, .blank, none⟩
    else match read session raw with
      | .error error => .replied (shell.perform session raw (.error error))
      | .ok line =>
        match shell.waitsFor? line with
        | some name => .waiting ⟨raw, name, line⟩
        | none => .replied (shell.perform session raw (.ok line))

/-- Runs a line that has waited. Without a session its command is not run and nothing is
recorded. -/
def resume (shell : Shell) (pending : Pending) : Reply :=
  match shell.session with
  | none =>
    { shell := shell
      entry := ⟨pending.raw, pending.line.args, pending.name ++ ": session closed", 1⟩
      change := none }
  | some session => shell.perform session pending.raw (.ok pending.line)

/-- Why a line is not run. -/
inductive Unserved (ε : Type) where
  | closed (error : SessionClosed)
  /-- What went on during its wait failed. -/
  | interrupted (error : ε)
deriving DecidableEq, Repr

variable {ε : Type}

/-- What has come of the lines served so far. -/
structure Served (ε : Type) where
  shell : Shell
  /-- How often a line waited. -/
  waits : Nat
  answers : List (Except (Unserved ε) Entry)
  /-- The project trees that were shown, in order. -/
  changes : List (List ProjectNode)

/-- A reply to one more line. -/
def Served.add (served : Served ε) (reply : Reply) : Served ε :=
  { served with
    shell := reply.shell
    answers := served.answers ++ [.ok reply.entry]
    changes := served.changes ++ reply.change.toList }

/-- A line that is not run. -/
def Served.skip (served : Served ε) (error : Unserved ε) : Served ε :=
  { served with answers := served.answers ++ [.error error] }

/-- Serves one more line. `meanwhile` is what happens to the shell during a wait, which is told how
many waits there were before. -/
def Served.serve (meanwhile : Nat → Shell → Shell × Option ε) (served : Served ε) (line : String) :
    Served ε :=
  match served.shell.submit line with
  | .error error => served.skip (.closed error)
  | .ok (.replied reply) => served.add reply
  | .ok (.waiting pending) =>
    let waited := { served with waits := served.waits + 1 }
    match meanwhile served.waits served.shell with
    | (shell, none) => waited.add (shell.resume pending)
    | (shell, some error) => { waited with shell := shell }.skip (.interrupted error)

/-- Serves lines that are submitted together, in order. -/
def serveAll (meanwhile : Nat → Shell → Shell × Option ε) (shell : Shell) (lines : List String) :
    Served ε :=
  lines.foldl (Served.serve meanwhile) ⟨shell, 0, [], []⟩

end Shell
end EditorShell

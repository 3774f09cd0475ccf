import EditorShell.Proofs.Shell.Waiting

/-!
# Lines that outlive their session

While a line waits, its session may be stopped and another one started. What becomes of the line
then depends only on whether a session is running when the wait ends. If none is, the line is
answered and not run (`serve_eq_of_closed`). If one is, the line is run there, whichever session it
is, with the words that it was read as in its own (`serve_eq_of_running`). So a restart does not
close the lines that wait: they run in the session that follows (`serve_restart`).
-/

namespace EditorShell

/-! ## What is recorded -/

namespace History

/-- A history that keeps anything ends with what was recorded last. -/
theorem getLast?_record {history : History} {entry : Entry}
    (h : (history.record entry).limit ≠ 0) :
    (history.record entry).entries.getLast? = some (entry.cut history.textLimit) := by
  have hlimit : history.limit ≠ 0 := h
  rw [record, lastOf, List.getLast?_drop, if_neg, List.getLast?_concat]
  rw [List.length_append, List.length_singleton]
  omega

end History

theorem Entry.cut_cut (limit : Nat) (entry : Entry) :
    (entry.cut limit).cut limit = entry.cut limit := by
  have htake (text : String) : Text.take limit (Text.take limit text) = Text.take limit text := by
    rw [← String.toList_inj, Text.toList_take, Text.toList_take, List.take_take, Nat.min_self]
  simp [cut, htake]

namespace Shell

variable {ε : Type} {shell after : Shell} {line name : String} {args : List String}
  {meanwhile : Nat → Shell → Shell × Option ε} {served : Served ε}

/-- A line that is run is recorded: its entry comes last in the history. -/
theorem recorded_perform (shell : Shell) (session : Session) (raw : String)
    (line : Except SyntaxError CommandLine) :
    ∃ recorded, (shell.perform session raw line).shell.session = some recorded ∧
      (recorded.history.limit ≠ 0 →
        recorded.history.entries.getLast? = some (shell.perform session raw line).entry) := by
  refine ⟨_, rfl, fun hlimit => ?_⟩
  rw [History.getLast?_record hlimit, Entry.cut_cut]
  rfl

/-- A line whose command is offered leaves the name of the command. -/
theorem lastCommandName_perform {command : Command}
    (hcommand : shell.catalog.get? name = some command) (session : Session) (raw : String)
    (redirection : Option Redirection) :
    (shell.perform session raw (.ok ⟨some name, args, redirection⟩)).shell.lastCommandName =
      some name := by
  simp only [perform, attend, dispatch, hcommand]
  split
  · rfl
  · split <;> rfl

/-! ## The end of a wait -/

/-- With a session at the end of its wait, a line is run in that session, as it was read in the
session in which it was submitted. -/
theorem serve_eq_of_running (hcall : served.shell.networkCall? line = some (name, args))
    (hmeanwhile : meanwhile served.waits served.shell = (after, none)) {running : Session}
    (hrunning : after.session = some running) :
    ∃ own redirection, served.shell.session = some own ∧
      read own (Text.strip line) = .ok ⟨some name, args, redirection⟩ ∧
      served.serve meanwhile line =
        { served with waits := served.waits + 1 }.add
          (after.perform running (Text.strip line) (.ok ⟨some name, args, redirection⟩)) := by
  have hne := strip_ne_empty hcall
  obtain ⟨own, redirection, hown, hread, hwaits⟩ := networkCall?_eq_some hcall
  have hsubmit : served.shell.submit line =
      .ok (.waiting ⟨Text.strip line, name, ⟨some name, args, redirection⟩⟩) := by
    simp only [submit, require, hown, Except.map, if_neg hne, hread, hwaits]
  refine ⟨own, redirection, hown, hread, ?_⟩
  simp only [Served.serve, hsubmit, hmeanwhile, resume, hrunning]

/-- The command of a line that calls the network is one that the shell offers. -/
theorem catalog_of_networkCall? (hcall : shell.networkCall? line = some (name, args)) :
    ∃ command, shell.catalog.get? name = some command := by
  obtain ⟨session, redirection, -, -, hwaits⟩ := networkCall?_eq_some hcall
  cases hcommand : shell.catalog.get? name with
  | none => simp [waitsFor?, hcommand] at hwaits
  | some command => exact ⟨command, rfl⟩

/-- **A line that waits over a restart is run in the session that follows.** If that session can
start, the line is run in it as it was read in its own: the shell, the answer and the trees are
those of the line run there, its command is the last one that was run, and its entry comes last in
the history. If no session can start, the line is not run, and what stopped the restart is its
answer. -/
theorem serve_restart (served : Served StartError) (line name : String) (args : List String)
    (tree : List ProjectNode) (hcall : served.shell.networkCall? line = some (name, args)) :
    (∀ fresh, Session.start served.shell.settings tree = .ok fresh →
      ∃ own redirection reply recorded, served.shell.session = some own ∧
        read own (Text.strip line) = .ok ⟨some name, args, redirection⟩ ∧
        reply = perform { served.shell with session := some fresh } fresh (Text.strip line)
          (.ok ⟨some name, args, redirection⟩) ∧
        served.serve (fun _ shell => shell.restart tree) line =
          { served with waits := served.waits + 1 }.add reply ∧
        reply.shell.lastCommandName = some name ∧ reply.shell.session = some recorded ∧
        (recorded.history.limit ≠ 0 →
          recorded.history.entries.getLast? = some reply.entry)) ∧
    ∀ error, Session.start served.shell.settings tree = .error error →
      served.serve (fun _ shell => shell.restart tree) line =
        { served with shell := served.shell.stop, waits := served.waits + 1 }.skip
          (.interrupted error) := by
  refine ⟨fun fresh hfresh => ?_, fun error herror => ?_⟩
  · have hrestart : served.shell.restart tree =
        ({ served.shell with session := some fresh }, none) := by
      simp only [restart, start, stop, hfresh, Except.map]
    obtain ⟨own, redirection, hown, hread, hserve⟩ :=
      @serve_eq_of_running _ _ line name args (fun _ shell => shell.restart tree) served hcall
        hrestart fresh rfl
    obtain ⟨command, hcommand⟩ := catalog_of_networkCall? hcall
    obtain ⟨recorded, hrecorded, hlast⟩ := recorded_perform
      { served.shell with session := some fresh } fresh (Text.strip line)
      (.ok ⟨some name, args, redirection⟩)
    exact ⟨own, redirection, _, recorded, hown, hread, rfl, hserve,
      lastCommandName_perform hcommand fresh (Text.strip line) redirection, hrecorded, hlast⟩
  · have hrestart : served.shell.restart tree = (served.shell.stop, some error) := by
      simp only [restart, start, stop, herror, Except.map]
    obtain ⟨redirection, hsubmit, -⟩ := submit_of_networkCall?_eq_some hcall
    simp only [Served.serve, hsubmit, hrestart]

/-- A shell with all built-in commands and a session over an empty project. -/
def idle : Shell := (create .default [] ⟨2024, 1, 2⟩).handle (.start [])

theorem serve_restart_idle :
    idle.networkCall? "wget x > w" = some ("wget", ["x"]) ∧
      ∃ fresh own redirection reply recorded, Session.start idle.settings [] = .ok fresh ∧
        idle.session = some own ∧
        read own (Text.strip "wget x > w") = .ok ⟨some "wget", ["x"], redirection⟩ ∧
        reply = perform { idle with session := some fresh } fresh (Text.strip "wget x > w")
          (.ok ⟨some "wget", ["x"], redirection⟩) ∧
        Served.serve (fun _ shell => shell.restart []) ⟨idle, 0, [], []⟩ "wget x > w" =
          (⟨idle, 1, [], []⟩ : Served StartError).add reply ∧
        reply.shell.lastCommandName = some "wget" ∧ reply.shell.session = some recorded ∧
        (recorded.history.limit ≠ 0 →
          recorded.history.entries.getLast? = some reply.entry) := by
  have hcall : idle.networkCall? "wget x > w" = some ("wget", ["x"]) := by decide +kernel
  obtain ⟨own, redirection, reply, recorded, h⟩ :=
    (serve_restart ⟨idle, 0, [], []⟩ "wget x > w" "wget" ["x"] [] hcall).1 _ rfl
  exact ⟨hcall, _, own, redirection, reply, recorded, rfl, h⟩

/-- **A restart does not close the lines that wait,** even if the session that follows can start. -/
theorem not_closed_of_restart :
    ¬ ∀ (served : Served StartError) (line name : String) (args : List String)
      (tree : List ProjectNode), served.shell.networkCall? line = some (name, args) →
        (served.shell.restart tree).2 = none →
          served.serve (fun _ shell => shell.restart tree) line =
            served.closed (served.shell.restart tree).1 line name args := by
  intro h
  have hcode := congrArg (fun served => served.answers.map fun answer =>
    answer.toOption.map (·.exitCode))
    (h ⟨idle, 0, [], []⟩ "wget x > w" "wget" ["x"] [] (by decide +kernel) (by decide +kernel))
  -- the line ends with 0, and a closed one would end with 1
  revert hcode
  decide +kernel

end Shell
end EditorShell

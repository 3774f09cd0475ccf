import EditorShell.Proofs.Shell.Allowed
import EditorShell.Proofs.Store.Transfer

/-!
# Where output goes

The output of a command goes to the file that the target of a redirection denotes when the command
has run (`execute_redirection`). That is the file that it denoted when the line was typed, unless
the command has moved the working directory and the target is relative to it, or the command has
changed the home directory and the target begins with `~` (`Session.resolve_eq`). Of the built-in
commands few can do the one or the other (`keepsHome_catalog`).
-/

namespace EditorShell

open Builtin

/-! ## What a target denotes -/

namespace Session

variable {session ran : Session} {settings : Settings} {path : String}

theorem expandHome_eq (h : ran.home settings = session.home settings ∨ ¬StartsAtHome path) :
    ran.expandHome settings path = session.expandHome settings path := by
  obtain hhome | hpath := h
  · simp only [expandHome, hhome]
  · rw [expandHome_eq_self hpath, expandHome_eq_self hpath]

/-- **A path denotes the same before and after,** if the working directory is the same or the path
is absolute, and the home directory is the same or the path does not begin there. -/
theorem resolve_eq
    (hcwd : ran.store.cwd = session.store.cwd ∨
      Text.startsWith (session.expandHome settings path) Path.root = true)
    (hhome : ran.home settings = session.home settings ∨ ¬StartsAtHome path) :
    ran.resolve settings path = session.resolve settings path := by
  rw [resolve, resolve, expandHome_eq hhome]
  obtain hcwd | habsolute := hcwd
  · rw [hcwd]
  · rw [Path.resolve_of_absolute habsolute, Path.resolve_of_absolute habsolute]

end Session

/-! ## Which commands change what a target denotes -/

namespace Builtin

/-- The commands that can change the home directory. -/
def homeOwners : List String := ["export", "unset"]

end Builtin

/-- The handler leaves the home directory as it is. -/
def Handler.KeepsHome (handler : Handler) : Prop :=
  ∀ (surroundings : Surroundings) (session : Session) (args : List String) (settings : Settings),
    (handler.run surroundings session args).1.home settings = session.home settings

theorem Handler.KeepsTo.keepsHome {name : String} {handler : Handler} (h : handler.KeepsTo name)
    (hname : name ∉ environmentOwners) : handler.KeepsHome := by
  intro s session args settings
  rw [Session.home, Session.home, (h s session args).environment hname]

namespace Builtin

theorem keepsHome_cd : (Handler.edit cd).KeepsHome := by
  intro s session args settings
  have hgo (path : String) : (go session path).home settings = session.home settings := by
    simp [Session.home, go, Table.getD]
  show (cd s session args).1.home settings = session.home settings
  unfold cd
  split
  · rfl
  · simp only
    split_ifs
    · exact hgo _
    · rfl
    · exact hgo _
    · rfl

/-- **Only `export` and `unset` change the home directory,** of all built-in commands. -/
theorem keepsHome_catalog :
    ∀ entry ∈ catalog.entries, entry.1 ∉ homeOwners → entry.2.handler.KeepsHome :=
  @forall_catalog_of_environmentOwners (fun name handler => name ∉ homeOwners → handler.KeepsHome)
    (fun _ _ hkeeps hname _ => hkeeps.keepsHome hname)
    ⟨fun _ => keepsHome_cd, fun hnot => absurd (by decide) hnot,
      fun hnot => absurd (by decide) hnot⟩

end Builtin

/-! ## What a redirection does -/

/-- The output as it is written to a file: with a line feed at its end, unless it is empty. -/
def Result.written (result : Result) : String :=
  if result.stdout = "" || Text.endsWith result.stdout "\n" then result.stdout
  else result.stdout ++ "\n"

/-- What is left of a result to be shown when the output has gone to a file. -/
def Result.diverted (result : Result) : Result := { result with stdout := "" }

namespace Shell

variable {shell : Shell} {session ran : Session} {settings : Settings} {line name : String}
  {args : List String} {redirection : Redirection} {command : Command} {result : Result}

theorem redirect_of_accepts
    (h : session.store.Accepts (session.resolve settings redirection.target)) (result : Result) :
    ∃ store, redirect settings session result redirection =
        ({ session with store := store }, result.diverted) ∧
      session.store.Wrote (session.resolve settings redirection.target) result.written
        redirection.append store := by
  obtain ⟨store, hwrite⟩ := Store.exists_writeFile_eq_ok_iff.2 h
  refine ⟨store, ?_, Store.writeFile_wrote hwrite⟩
  simp only [redirect]
  rw [← Result.written, hwrite]
  rfl

theorem redirect_of_not_accepts
    (h : ¬session.store.Accepts (session.resolve settings redirection.target)) (result : Result) :
    redirect settings session result redirection =
      (session, .fail ("bash: " ++ redirection.target ++ ": No such file or directory") 1) := by
  simp only [redirect]
  split
  next store hwrite => exact absurd (Store.exists_writeFile_eq_ok_iff.1 ⟨store, hwrite⟩) h
  · rfl

/-- A command that does not give up has its output redirected. -/
theorem attend_redirection (hoffered : shell.catalog.get? name = some command)
    (hrun : command.handler.run ⟨shell.settings, name, shell.infos, shell.today⟩ session args =
      (ran, .ok result)) (redirection : Redirection) :
    shell.attend session (.ok ⟨some name, args, some redirection⟩) =
      ⟨some name, (redirect shell.settings ran result redirection).1,
        (redirect shell.settings ran result redirection).2⟩ := by
  simp only [attend, dispatch, hoffered, hrun]

/-- **The output of a command goes to the file that the target denotes when the command has run.**
If a file can be written there, its text is the output, or with `>>` ends with it, and all other
files and all directories are as the command has left them; else the store is as the command has
left it. In either case only the variable of the working directory and the entry of the line are
added to what the command has left of the session. It is the file that the target denoted when the
line was typed, if the working directory and the home directory are what they were as far as the
target depends on them; and built-in commands that do not own these leave them as they were. -/
theorem execute_redirection (hsession : shell.session = some session)
    (hread : read session (Text.strip line) = .ok ⟨some name, args, some redirection⟩)
    (hoffered : shell.catalog.get? name = some command)
    (hrun : command.handler.run ⟨shell.settings, name, shell.infos, shell.today⟩ session args =
      (ran, .ok result)) :
    (∃ reply after, shell.execute line = .ok reply ∧ reply.shell.session = some after ∧
      session.Recorded { ran with store := after.store } reply.entry after ∧
      (ran.store.Accepts (ran.resolve shell.settings redirection.target) →
        ran.store.Wrote (ran.resolve shell.settings redirection.target) result.written
          redirection.append after.store ∧
        reply.entry = Entry.cut ran.history.textLimit
          ⟨Text.strip line, args, result.diverted.output, result.exitCode⟩) ∧
      (¬ran.store.Accepts (ran.resolve shell.settings redirection.target) →
        after.store = ran.store ∧
        reply.entry = Entry.cut ran.history.textLimit ⟨Text.strip line, args,
          "bash: " ++ redirection.target ++ ": No such file or directory", 1⟩)) ∧
    ((ran.store.cwd = session.store.cwd ∨ Text.startsWith
        (session.expandHome shell.settings redirection.target) Path.root = true) →
      (ran.home shell.settings = session.home shell.settings ∨
        ¬StartsAtHome redirection.target) →
      ran.resolve shell.settings redirection.target =
        session.resolve shell.settings redirection.target) ∧
    ((name, command) ∈ Builtin.catalog.entries →
      (name ∉ cwdOwners → ran.store.cwd = session.store.cwd) ∧
      (name ∉ homeOwners → ran.home shell.settings = session.home shell.settings)) := by
  have hattend := attend_redirection hoffered hrun redirection
  rw [← hread] at hattend
  refine ⟨?_, Session.resolve_eq, fun hbuiltin => ⟨fun hname => ?_, fun hname => ?_⟩⟩
  · by_cases haccepts : ran.store.Accepts (ran.resolve shell.settings redirection.target)
    · obtain ⟨store, hredirect, hwrote⟩ := redirect_of_accepts haccepts result
      rw [hredirect] at hattend
      obtain ⟨reply, after, hexecute, hshell, hrecorded, hentry, -⟩ :=
        execute_of_attend hsession (strip_ne_empty_of_read hread) hattend
      rw [hread] at hentry
      have hstore : after.store = store := hrecorded.store
      rw [← hstore] at hrecorded hwrote
      exact ⟨reply, after, hexecute, by rw [hshell], hrecorded, fun _ => ⟨hwrote, hentry⟩,
        fun hnot => absurd haccepts hnot⟩
    · rw [redirect_of_not_accepts haccepts] at hattend
      obtain ⟨reply, after, hexecute, hshell, hrecorded, hentry, -⟩ :=
        execute_of_attend hsession (strip_ne_empty_of_read hread) hattend
      rw [hread, Result.output_fail (by simp)] at hentry
      have hstore : after.store = ran.store := hrecorded.store
      refine ⟨reply, after, hexecute, by rw [hshell], ?_, fun h => absurd h haccepts,
        fun _ => ⟨hstore, hentry⟩⟩
      rw [hstore]
      exact hrecorded
  · have hkeeps := keepsTo_catalog _ hbuiltin ⟨shell.settings, name, shell.infos, shell.today⟩
      session args
    rw [hrun] at hkeeps
    exact hkeeps.cwd hname
  · have hkeeps := keepsHome_catalog _ hbuiltin hname
      ⟨shell.settings, name, shell.infos, shell.today⟩ session args shell.settings
    rw [hrun] at hkeeps
    exact hkeeps

theorem execute_redirection_idle :
    ∃ reply after, idle.execute "echo a b >> f" = .ok reply ∧ reply.shell.session = some after ∧
      reply.entry.exitCode = 0 ∧ after.store.files.get? "/f" = some ⟨"a b\n", none, none⟩ := by
  obtain ⟨session, hsession⟩ : ∃ session, idle.session = some session :=
    Option.isSome_iff_exists.1 (by decide +kernel)
  obtain ⟨command, hoffered⟩ : ∃ command, idle.catalog.get? "echo" = some command :=
    Option.isSome_iff_exists.1 (by decide +kernel)
  have hread : idle.session.map (fun session => read session (Text.strip "echo a b >> f")) =
      some (.ok ⟨some "echo", ["a", "b"], some ⟨"f", true⟩⟩) := by
    decide +kernel
  have hrun : idle.session.bind (fun session => (idle.catalog.get? "echo").map fun command =>
      command.handler.run ⟨idle.settings, "echo", idle.infos, idle.today⟩ session ["a", "b"]) =
      idle.session.map fun session => (session, .ok (.ok "a b")) := by
    decide +kernel
  have hplace : idle.session.map (fun session => (session.resolve idle.settings "f",
      decide (session.store.Accepts "/f"), session.store.files.get? "/f")) =
      some ("/f", true, none) := by
    decide +kernel
  simp only [hsession, hoffered, Option.map_some, Option.bind_some, Option.some.injEq,
    Prod.mk.injEq, decide_eq_true_eq] at hread hrun hplace
  obtain ⟨hplace, haccepts, hnone⟩ := hplace
  obtain ⟨⟨reply, after, hreply, hafter, -, hwritten, -⟩, -⟩ :=
    execute_redirection hsession hread hoffered hrun
  rw [hplace] at hwritten
  obtain ⟨hwrote, hentry⟩ := hwritten haccepts
  have hfile := hwrote.file_eq
  rw [hnone] at hfile
  exact ⟨reply, after, hreply, hafter, congrArg Entry.exitCode hentry,
    hfile.trans (by decide +kernel)⟩

/-- A shell with a session over a project of one folder. -/
def beside : Shell :=
  (create .default [] ⟨2024, 1, 2⟩).handle (.start [.leaf ⟨"1", "d", .folder, none, none⟩])

/-- **The file that is written is not always the one that the target denoted when the line was
typed:** the command may have gone elsewhere. -/
theorem not_wrote_of_cwd_moved :
    ¬∀ (shell : Shell) (session ran after : Session) (line name : String) (args : List String)
      (redirection : Redirection) (command : Command) (result : Result) (reply : Reply),
      shell.session = some session →
      read session (Text.strip line) = .ok ⟨some name, args, some redirection⟩ →
      shell.catalog.get? name = some command → (name, command) ∈ Builtin.catalog.entries →
      command.handler.run ⟨shell.settings, name, shell.infos, shell.today⟩ session args =
        (ran, .ok result) →
      shell.execute line = .ok reply → reply.shell.session = some after →
      after.store ≠ ran.store →
        ran.store.Wrote (session.resolve shell.settings redirection.target) result.written
          redirection.append after.store := by
  intro hall
  obtain ⟨session, hsession⟩ : ∃ session, beside.session = some session :=
    Option.isSome_iff_exists.1 (by decide +kernel)
  obtain ⟨command, hoffered⟩ : ∃ command, beside.catalog.get? "cd" = some command :=
    Option.isSome_iff_exists.1 (by decide +kernel)
  have hread : beside.session.map (fun session => read session (Text.strip "cd d > f")) =
      some (.ok ⟨some "cd", ["d"], some ⟨"f", false⟩⟩) := by
    decide +kernel
  have hrun : beside.session.bind (fun session => (beside.catalog.get? "cd").map fun command =>
      command.handler.run ⟨beside.settings, "cd", beside.infos, beside.today⟩ session ["d"]) =
      beside.session.map fun session => (go session "/d", .ok .silent) := by
    decide +kernel
  have hplace : beside.session.map (fun session => (session.resolve beside.settings "f",
      session.store.files.get? "/d/f")) = some ("/f", none) := by
    decide +kernel
  have hwritten : (beside.execute "cd d > f").toOption.bind (fun reply => reply.shell.session.map
      fun after => (after.store.files.get? "/f", after.store.files.get? "/d/f")) =
      some (none, some ⟨"", none, none⟩) := by
    decide +kernel
  obtain ⟨reply, hreply, hwritten⟩ := Option.bind_eq_some_iff.1 hwritten
  obtain ⟨after, hafter, hwritten⟩ := Option.map_eq_some_iff.1 hwritten
  simp only [hsession, hoffered, Option.map_some, Option.bind_some, Option.some.injEq,
    Prod.mk.injEq] at hread hrun hplace hwritten
  obtain ⟨hplace, hfree⟩ := hplace
  have hexecute : beside.execute "cd d > f" = .ok reply := by
    cases hresult : beside.execute "cd d > f" with
    | error error => simp [hresult, Except.toOption] at hreply
    | ok reply => simpa [hresult, Except.toOption] using hreply
  -- the command alone writes no file, and the file that is written is not the one that was meant
  have hother : after.store ≠ (go session "/d").store := by
    intro hsame
    have hfound : (go session "/d").store.files.get? "/d/f" = none := hfree
    rw [hsame, hfound] at hwritten
    cases hwritten.2
  have hwrote := hall beside session _ after "cd d > f" "cd" ["d"] ⟨"f", false⟩ command _ reply
    hsession hread hoffered (mem_catalog_of_offered hoffered) hrun hexecute hafter hother
  have hfile := hwrote.file_eq
  rw [hplace, hwritten.1] at hfile
  cases hfile

end Shell
end EditorShell

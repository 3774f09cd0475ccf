import EditorShell.Proofs.Builtin.Catalog
import EditorShell.Proofs.Shell.Restart

/-!
# What a line leaves alone

What follows the command of a line adds little to what the command did: the variable that tells the
working directory is set if that has changed, and the entry of the line is recorded
(`exists_recorded`). So a line that calls a built-in command changes what the command owns, and no
more than these two besides (`execute_confined`).
-/

namespace EditorShell

open Builtin

attribute [ext] Session

/-- `after` is the session `ran` that the command of a line left, with the variable that tells the
working directory and with the entry of the line. The line was run in `session`. -/
structure Session.Recorded (session ran : Session) (entry : Entry) (after : Session) : Prop where
  store : after.store = ran.store
  environment : after.environment =
    if ran.store.cwd = session.store.cwd then ran.environment
    else ran.environment.set "PWD" ran.store.cwd
  aliases : after.aliases = ran.aliases
  history : after.history =
    { ran.history with entries := lastOf ran.history.limit (ran.history.entries ++ [entry]) }

namespace Session.Recorded

variable {session ran after : Session} {entry : Entry} {name : String} {args : List String}

theorem store_eq (h : session.Recorded ran entry after) (hkeeps : session.Confined name args ran)
    (hnot : name ∉ storeOwners) : after.store.directories = session.store.directories ∧
      after.store.files = session.store.files ∧
      after.store.revision = session.store.revision := by
  rw [h.store]
  exact hkeeps.store hnot

theorem cwd_eq (h : session.Recorded ran entry after) (hkeeps : session.Confined name args ran)
    (hnot : name ∉ cwdOwners) : after.store.cwd = session.store.cwd := by
  rw [h.store]
  exact hkeeps.cwd hnot

theorem environment_eq (h : session.Recorded ran entry after)
    (hkeeps : session.Confined name args ran) (hnot : name ∉ environmentOwners) :
    after.environment = if after.store.cwd = session.store.cwd then session.environment
      else session.environment.set "PWD" after.store.cwd := by
  rw [h.environment, h.store, hkeeps.environment hnot]

theorem aliases_eq (h : session.Recorded ran entry after)
    (hkeeps : session.Confined name args ran) (hnot : name ∉ aliasOwners) :
    after.aliases = session.aliases :=
  h.aliases.trans (hkeeps.aliases hnot)

theorem history_eq (h : session.Recorded ran entry after)
    (hkeeps : session.Confined name args ran) :
    after.history = { session.history with
      entries := lastOf session.history.limit
        ((if Forgets name args then [] else session.history.entries) ++ [entry]) } := by
  rw [h.history, hkeeps.history]
  split_ifs <;> rfl

/-- The line of a command that has left the session alone is recorded, and that is all. -/
theorem eq_of_self (h : session.Recorded session entry after) :
    after = { session with history := after.history } :=
  Session.ext h.store (h.environment.trans (if_pos rfl)) h.aliases rfl

/-- The line of a command that owns nothing is recorded, and that is all. -/
theorem eq_of_not_mem_owners (h : session.Recorded ran entry after)
    (hkeeps : session.Confined name args ran) (hnot : name ∉ owners) :
    after = { session with history := after.history } := by
  simp only [owners, List.mem_append, not_or] at hnot
  obtain ⟨⟨⟨hnotStore, hnotCwd⟩, hnotEnvironment⟩, hnotAliases⟩ := hnot
  have hstore : after.store = session.store :=
    h.store.trans (hkeeps.store_eq hnotStore hnotCwd)
  have henvironment := h.environment_eq hkeeps hnotEnvironment
  rw [if_pos (h.cwd_eq hkeeps hnotCwd)] at henvironment
  exact Session.ext hstore henvironment (h.aliases_eq hkeeps hnotAliases) rfl

end Session.Recorded

namespace Shell

variable {shell : Shell} {session : Session} {line name : String} {args : List String}
  {command : Command}

theorem execute_of_blank (hsession : shell.session = some session) (hblank : Text.strip line = "") :
    shell.execute line = .ok ⟨shell, .blank, none⟩ := by
  simp only [execute, require, hsession, Except.map, if_pos hblank]

theorem execute_of_not_blank (hsession : shell.session = some session)
    (hne : Text.strip line ≠ "") :
    shell.execute line =
      .ok (shell.perform session (Text.strip line) (read session (Text.strip line))) := by
  simp only [execute, require, hsession, Except.map, if_neg hne]

/-- Every line that is run leaves a session in which it is recorded. -/
theorem exists_recorded (shell : Shell) (session : Session) (raw : String)
    (line : Except SyntaxError CommandLine) :
    ∃ after, (shell.perform session raw line).shell.session = some after ∧
      session.Recorded (shell.attend session line).session (shell.perform session raw line).entry
        after := by
  by_cases hcwd :
      (shell.attend session line).session.store.cwd = session.store.cwd
  · refine ⟨_, rfl, ?_⟩
    simp only [perform, if_pos hcwd]
    exact ⟨rfl, (if_pos hcwd).symm, rfl, by rw [History.record, Entry.cut_cut]⟩
  · refine ⟨_, rfl, ?_⟩
    simp only [perform, if_neg hcwd]
    exact ⟨rfl, (if_neg hcwd).symm, rfl, by rw [History.record, Entry.cut_cut]; rfl⟩

/-- **What a line comes to,** told by what it leads to before it is recorded. -/
theorem perform_of_attend {parsed : Except SyntaxError CommandLine} {last : Option String}
    {ran : Session} {result : Result} (hattend : shell.attend session parsed = ⟨last, ran, result⟩)
    (raw : String) :
    ∃ reply after, shell.perform session raw parsed = reply ∧
      reply.shell = { shell with lastCommandName := last, session := some after } ∧
      session.Recorded ran reply.entry after ∧
      reply.entry = Entry.cut ran.history.textLimit
        ⟨raw, recordedArgs parsed, result.output, result.exitCode⟩ ∧
      reply.change = if ran.store.revision = session.store.revision then none
        else some ran.store.tree := by
  obtain ⟨after, hafter, hrecorded⟩ := exists_recorded shell session raw parsed
  rw [hattend] at hrecorded
  refine ⟨_, after, rfl, ?_, hrecorded, ?_, ?_⟩
  · rw [← hafter]
    simp only [perform, hattend]
  · simp only [perform, hattend]
    split <;> rfl
  · obtain ⟨recorded, -, hstore, hchange⟩ := session_perform shell session raw parsed
    rw [hattend] at hstore
    rw [hchange, hstore]

/-- **What executing a line comes to,** told in the same way. -/
theorem execute_of_attend {last : Option String} {ran : Session} {result : Result}
    (hsession : shell.session = some session) (hne : Text.strip line ≠ "")
    (hattend : shell.attend session (read session (Text.strip line)) = ⟨last, ran, result⟩) :
    ∃ reply after, shell.execute line = .ok reply ∧
      reply.shell = { shell with lastCommandName := last, session := some after } ∧
      session.Recorded ran reply.entry after ∧
      reply.entry = Entry.cut ran.history.textLimit ⟨Text.strip line,
        recordedArgs (read session (Text.strip line)), result.output, result.exitCode⟩ ∧
      reply.change = if ran.store.revision = session.store.revision then none
        else some ran.store.tree := by
  obtain ⟨reply, after, hperform, hleft⟩ := perform_of_attend hattend (Text.strip line)
  have hexecute := execute_of_not_blank hsession hne
  rw [hperform] at hexecute
  exact ⟨reply, after, hexecute, hleft⟩

/-- Without a redirection a line leaves of the session what its command leaves. -/
theorem session_attend (hoffered : shell.catalog.get? name = some command) (session : Session)
    (args : List String) :
    (shell.attend session (.ok ⟨some name, args, none⟩)).session =
      (command.handler.run ⟨shell.settings, name, shell.infos, shell.today⟩ session args).1 := by
  simp only [attend, dispatch, hoffered]
  split
  next after failure hrun => rw [hrun]
  next after result hrun => rw [hrun]

/-- **The effects of a line are confined to what its command owns,** if the command is built in and
the line has no redirection. Directories, files and the counter change only for the commands that
own the store, the working directory, the variables and the aliases only for theirs. Apart from
that the variable `PWD` follows the working directory, and the history gains the entry of the line,
after it has been emptied if that is what the line asks for. A command that owns nothing leaves
everything but the history. -/
theorem execute_confined (hsession : shell.session = some session)
    (hread : read session (Text.strip line) = .ok ⟨some name, args, none⟩)
    (hoffered : shell.catalog.get? name = some command)
    (hbuiltin : (name, command) ∈ Builtin.catalog.entries) :
    ∃ reply after, shell.execute line = .ok reply ∧ reply.shell.session = some after ∧
      (name ∉ storeOwners → after.store.directories = session.store.directories ∧
        after.store.files = session.store.files ∧
        after.store.revision = session.store.revision) ∧
      (name ∉ cwdOwners → after.store.cwd = session.store.cwd) ∧
      (name ∉ environmentOwners → after.environment =
        if after.store.cwd = session.store.cwd then session.environment
        else session.environment.set "PWD" after.store.cwd) ∧
      (name ∉ aliasOwners → after.aliases = session.aliases) ∧
      after.history = { session.history with
        entries := lastOf session.history.limit
          ((if Forgets name args then [] else session.history.entries) ++ [reply.entry]) } ∧
      (name ∉ owners → after = { session with history := after.history }) := by
  have hblank : Text.strip line ≠ "" := by
    intro hblank
    have hnone : read session "" = .ok .blank := rfl
    rw [hblank, hnone] at hread
    cases hread
  have hexecute := execute_of_not_blank hsession hblank
  rw [hread] at hexecute
  obtain ⟨after, hafter, hrecorded⟩ :=
    exists_recorded shell session (Text.strip line) (.ok ⟨some name, args, none⟩)
  rw [session_attend hoffered] at hrecorded
  have hkeeps := keepsTo_catalog _ hbuiltin ⟨shell.settings, name, shell.infos, shell.today⟩
    session args
  exact ⟨_, after, hexecute, hafter, hrecorded.store_eq hkeeps, hrecorded.cwd_eq hkeeps,
    hrecorded.environment_eq hkeeps, hrecorded.aliases_eq hkeeps, hrecorded.history_eq hkeeps,
    hrecorded.eq_of_not_mem_owners hkeeps⟩

/-- What a shell offers at its creation is built in. -/
theorem mem_catalog_of_offered {settings : Settings} {allowed : List String}
    (h : (offered settings allowed).get? name = some command) :
    (name, command) ∈ Builtin.catalog.entries :=
  (List.mem_filter.1 (Table.mem_entries_of_get? h)).1

theorem execute_confined_idle :
    ∃ session reply after, idle.session = some session ∧
      idle.execute "git status" = .ok reply ∧ reply.shell.session = some after ∧
      after.history = { session.history with
        entries := lastOf session.history.limit (session.history.entries ++ [reply.entry]) } ∧
      after = { session with history := after.history } := by
  obtain ⟨session, hsession⟩ : ∃ session, idle.session = some session :=
    Option.isSome_iff_exists.1 (by decide +kernel)
  have hread : idle.session.map (fun session => read session (Text.strip "git status")) =
      some (.ok ⟨some "git", ["status"], none⟩) := by
    decide +kernel
  rw [hsession, Option.map_some, Option.some.injEq] at hread
  obtain ⟨command, hoffered⟩ : ∃ command, idle.catalog.get? "git" = some command :=
    Option.isSome_iff_exists.1 (by decide +kernel)
  have hbuiltin : ("git", command) ∈ Builtin.catalog.entries :=
    @mem_catalog_of_offered "git" command .default [] hoffered
  obtain ⟨reply, after, hreply, hafter, -, -, -, -, hhistory, hrest⟩ :=
    execute_confined hsession hread hoffered hbuiltin
  have hargs : ¬Forgets "git" ["status"] := by decide
  rw [if_neg hargs] at hhistory
  exact ⟨session, reply, after, hsession, hreply, hafter, hhistory, hrest (by decide)⟩

end Shell
end EditorShell

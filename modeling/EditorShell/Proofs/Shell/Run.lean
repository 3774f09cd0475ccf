import EditorShell.Proofs.Builtin.Catalog
import EditorShell.Proofs.Project.Import
import EditorShell.Shell

/-!
# Runs of a shell

A client starts and stops sessions, loads project trees, submits lines, registers commands, and may
call the operations of the store by itself. `handle` is one such request, and `handleAll` a run of
them. All that a line does to the store is done by its command and by the redirection of its output
(`attend_rel`), so what these two keep, a run keeps.
-/

namespace EditorShell

/-- What a client asks of a shell. -/
inductive Request where
  | start (tree : List ProjectNode)
  | stop
  | restart (tree : List ProjectNode)
  | reload (tree : List ProjectNode)
  | execute (line : String)
  /-- An operation on the store of the running session. -/
  | perform (operation : Operation)
  | register (command : Command)

/-- An operation that is called names canonical paths, and a command that is registered keeps to
such operations. -/
def Request.IsSafe : Request → Prop
  | .perform operation => operation.IsCanonical
  | .register command => command.handler.EditsStore
  | _ => True

namespace Shell

variable {shell : Shell} {session : Session}

/-- The shell after a request. A request that fails leaves what its failure leaves: a restart that
fails leaves no session, and any other failure leaves the shell as it is. -/
def handle (shell : Shell) : Request → Shell
  | .start tree =>
    match shell.start tree with
    | .ok started => started
    | .error _ => shell
  | .stop => shell.stop
  | .restart tree => (shell.restart tree).1
  | .reload tree =>
    match shell.reload tree with
    | .ok reloaded => reloaded
    | .error _ => shell
  | .execute line =>
    match shell.execute line with
    | .ok reply => reply.shell
    | .error _ => shell
  | .perform operation =>
    { shell with
      session := shell.session.map fun session =>
        { session with store := (session.store.perform operation).1 } }
  | .register command => shell.register command

/-- The shell after requests in order, whether they fail or not. -/
def handleAll (shell : Shell) (requests : List Request) : Shell := requests.foldl handle shell

/-! ## What a line does to the store -/

/-- A redirection is an attempt to write a file. -/
theorem store_redirect (settings : Settings) (session : Session) (result : Result)
    (redirection : Redirection) :
    ∃ text, (redirect settings session result redirection).1.store =
      (session.store.perform (.writeFile (session.resolve settings redirection.target) text
        redirection.append none)).1 := by
  refine ⟨if result.stdout = "" || Text.endsWith result.stdout "\n" then result.stdout
    else result.stdout ++ "\n", ?_⟩
  simp only [redirect, Store.perform, Store.attempt]
  cases session.store.writeFile (session.resolve settings redirection.target) _
    redirection.append none <;> rfl

/-- Before and after a line the stores are related by whatever relates them across handlers and
across the write of a redirection. -/
theorem attend_rel {R : Store → Store → Prop} (hrefl : ∀ store, R store store)
    (htrans : ∀ {a b c}, R a b → R b c → R a c)
    (hhandler : ∀ entry ∈ shell.catalog.entries, ∀ surroundings (session : Session) args,
      R session.store (entry.2.handler.run surroundings session args).1.store)
    (hwrite : ∀ (session : Session) target text append, R session.store
      (session.store.perform
        (.writeFile (session.resolve shell.settings target) text append none)).1)
    (session : Session) (line : Except SyntaxError CommandLine) :
    R session.store (shell.attend session line).session.store := by
  cases line with
  | error error => exact hrefl session.store
  | ok line =>
    simp only [attend, dispatch]
    split
    · exact hrefl session.store
    next name hname =>
      split
      · exact hrefl session.store
      next command hcommand =>
        have hrun := hhandler _ (Table.mem_entries_of_get? hcommand)
          ⟨shell.settings, name, shell.infos, shell.today⟩ session line.args
        split
        next after failure heq => simpa [heq] using hrun
        next after result heq =>
          rw [heq] at hrun
          split
          · exact hrun
          next redirection hredirection =>
            obtain ⟨text, htext⟩ := store_redirect shell.settings after result redirection
            simp only [htext]
            exact htrans hrun (hwrite after redirection.target text redirection.append)

/-- What follows the command of a line changes only the environment and the history, and then the
counter decides whether the tree is shown. -/
theorem session_perform (shell : Shell) (session : Session) (raw : String)
    (line : Except SyntaxError CommandLine) :
    ∃ recorded, (shell.perform session raw line).shell =
        { shell with
          lastCommandName := (shell.attend session line).lastCommandName
          session := some recorded } ∧
      recorded.store = (shell.attend session line).session.store ∧
      (shell.perform session raw line).change =
        if recorded.store.revision = session.store.revision then none
        else some recorded.store.tree := by
  have hstore : (if (shell.attend session line).session.store.cwd = session.store.cwd then
      (shell.attend session line).session
      else (shell.attend session line).session.tellCwd).store =
        (shell.attend session line).session.store := by
    split <;> rfl
  exact ⟨_, rfl, hstore, by simp only [perform, hstore]⟩

/-- A line that is run leaves a session, which is the old one if the line is blank. -/
theorem execute_eq_ok {line : String} {reply : Reply} (h : shell.execute line = .ok reply) :
    ∃ session, shell.session = some session ∧
      (Text.strip line = "" ∧ reply = ⟨shell, .blank, none⟩ ∨
        Text.strip line ≠ "" ∧
          reply = shell.perform session (Text.strip line) (read session (Text.strip line))) := by
  unfold execute require at h
  split at h
  next session hsession =>
    refine ⟨session, hsession, ?_⟩
    simp only [Except.map, Except.ok.injEq] at h
    split at h
    next hblank => exact .inl ⟨hblank, h.symm⟩
    next hblank => exact .inr ⟨hblank, h.symm⟩
  · cases h

theorem start_eq_ok {tree : List ProjectNode} {started : Shell}
    (h : shell.start tree = .ok started) :
    ∃ session, Session.start shell.settings tree = .ok session ∧
      { shell with session := some session } = started := by
  unfold start at h
  cases hsession : Session.start shell.settings tree with
  | error error =>
    rw [hsession] at h
    cases h
  | ok session =>
    rw [hsession] at h
    exact ⟨session, rfl, Except.ok.inj h⟩

theorem catalog_start {tree : List ProjectNode} {started : Shell}
    (h : shell.start tree = .ok started) : started.catalog = shell.catalog := by
  obtain ⟨session, -, rfl⟩ := start_eq_ok h
  rfl

/-- Only a registration changes which commands there are. -/
theorem catalog_handle (shell : Shell) {request : Request}
    (h : ∀ command, request ≠ .register command) :
    (shell.handle request).catalog = shell.catalog := by
  cases request with
  | start tree =>
    simp only [handle]
    split
    next started hstart => exact catalog_start hstart
    · rfl
  | stop => rfl
  | restart tree =>
    simp only [handle, restart]
    split
    next started hstart => exact catalog_start hstart
    · rfl
  | reload tree =>
    simp only [handle, reload, require]
    cases shell.session <;> rfl
  | execute line =>
    simp only [handle]
    split
    next reply hreply =>
      obtain ⟨session, -, ⟨-, rfl⟩ | ⟨-, rfl⟩⟩ := execute_eq_ok hreply
      · rfl
      · obtain ⟨recorded, hshell, -⟩ := session_perform shell session (Text.strip line)
          (read session (Text.strip line))
        rw [hshell]
    · rfl
  | perform operation => rfl
  | register command => exact absurd rfl (h command)

/-- **What is left of the session by a request that is no line:** one that has started, the old one
with another tree or after an operation on its store, or the old one itself. -/
theorem session_handle {request : Request} (hline : ∀ line, request ≠ .execute line)
    {after : Session} (h : (shell.handle request).session = some after) :
    (∃ tree, Session.start shell.settings tree = .ok after) ∨
      ∃ session, shell.session = some session ∧
        (after = session ∨ (∃ tree, after = session.reload tree) ∨
          ∃ operation, request = .perform operation ∧
            after = { session with store := (session.store.perform operation).1 }) := by
  have hstart {tree : List ProjectNode} {started : Shell} (hstarted : shell.start tree = .ok started)
      (hafter : started.session = some after) :
      ∃ tree, Session.start shell.settings tree = .ok after := by
    obtain ⟨session, hfresh, rfl⟩ := start_eq_ok hstarted
    cases hafter
    exact ⟨tree, hfresh⟩
  cases request with
  | start tree =>
    simp only [handle] at h
    split at h
    next started hstarted => exact .inl (hstart hstarted h)
    · exact .inr ⟨after, h, .inl rfl⟩
  | stop => cases h
  | restart tree =>
    simp only [handle, restart] at h
    split at h
    next started hstarted => exact .inl (hstart hstarted h)
    · cases h
  | reload tree =>
    cases hsession : shell.session with
    | none => simp [handle, reload, require, hsession, Except.map] at h
    | some session =>
      simp only [handle, reload, require, hsession, Except.map, Option.some.injEq] at h
      exact .inr ⟨session, rfl, .inr (.inl ⟨tree, h.symm⟩)⟩
  | execute line => exact absurd rfl (hline line)
  | perform operation =>
    obtain ⟨session, hsession, rfl⟩ := Option.map_eq_some_iff.1 h
    exact .inr ⟨session, hsession, .inr (.inr ⟨operation, rfl, rfl⟩)⟩
  | register command => exact .inr ⟨after, h, .inl rfl⟩

/-- What is left of the store by a line: nothing happens to it, or what the line leads to before it
is recorded. -/
theorem store_handle_execute {line : String} {after : Session}
    (h : (shell.handle (.execute line)).session = some after) :
    ∃ session, shell.session = some session ∧
      (after = session ∨
        after.store = (shell.attend session (read session (Text.strip line))).session.store) := by
  simp only [handle] at h
  split at h
  next reply hreply =>
    obtain ⟨session, hsession, ⟨-, rfl⟩ | ⟨-, rfl⟩⟩ := execute_eq_ok hreply
    · exact ⟨after, h, .inl rfl⟩
    · obtain ⟨recorded, hshell, hstore, -⟩ := session_perform shell session (Text.strip line)
        (read session (Text.strip line))
      rw [hshell] at h
      cases h
      exact ⟨session, hsession, .inr hstore⟩
  · exact ⟨after, h, .inl rfl⟩

/-! ## Stores stay well formed -/

/-- Every command keeps to operations on canonical paths, and the store is well formed. -/
structure Sound (shell : Shell) : Prop where
  catalog : ∀ entry ∈ shell.catalog.entries, entry.2.handler.EditsStore
  store : ∀ session, shell.session = some session → session.store.WellFormed

end Shell

theorem Session.wellFormed_start {settings : Settings} {tree : List ProjectNode} {session : Session}
    (h : Session.start settings tree = .ok session) : session.store.WellFormed := by
  have htree := Store.wellFormed_ofTree tree
  have hhome : ∀ home, (if (Store.ofTree tree).isDirectory home then
      { Store.ofTree tree with cwd := home } else Store.ofTree tree).WellFormed := by
    intro home
    split
    next hdir => exact { htree with cwd_mem := Store.isDirectory_iff.1 hdir }
    · exact htree
  simp only [Session.start, ofSettings] at h
  split at h
  · cases h
  · cases h
    exact hhome _

namespace Shell

variable {shell : Shell}

theorem edits_attend (hcatalog : ∀ entry ∈ shell.catalog.entries, entry.2.handler.EditsStore)
    (session : Session) (line : Except SyntaxError CommandLine) :
    session.store.Edits (shell.attend session line).session.store := by
  refine @attend_rel shell Store.Edits (fun _ => .refl) Store.Edits.trans hcatalog ?_ session line
  intro session target text append
  refine .single _ fun hwell path hpath => ?_
  rw [List.mem_singleton.1 hpath]
  exact Session.isCanonical_resolve_of_wellFormed hwell shell.settings target

namespace Sound

theorem create (settings : Settings) (allowed : List String) (today : Date) :
    (Shell.create settings allowed today).Sound where
  catalog entry hentry := Builtin.editsStore_catalog entry (List.mem_filter.1 hentry).1
  store _ h := by cases h

/-- What a request leaves of the store is well formed. -/
theorem store_handle (h : shell.Sound) {request : Request} (hsafe : request.IsSafe)
    {session : Session} (hsession : (shell.handle request).session = some session) :
    session.store.WellFormed := by
  by_cases hline : ∃ line, request = .execute line
  · obtain ⟨line, rfl⟩ := hline
    obtain ⟨old, hold, rfl | hstore⟩ := store_handle_execute hsession
    · exact h.store session hold
    · rw [hstore]
      exact (edits_attend h.catalog old _).wellFormed (h.store old hold)
  · obtain ⟨tree, hstart⟩ | ⟨old, hold, rfl | ⟨tree, rfl⟩ | ⟨operation, rfl, rfl⟩⟩ :=
      session_handle (not_exists.1 hline) hsession
    · exact Session.wellFormed_start hstart
    · exact h.store session hold
    · exact Store.wellFormed_load old.store tree
    · exact (h.store old hold).perform hsafe

/-- **A request keeps a shell sound,** whether it fails or not. -/
theorem handle (h : shell.Sound) {request : Request} (hsafe : request.IsSafe) :
    (shell.handle request).Sound := by
  refine ⟨?_, fun session => h.store_handle hsafe⟩
  by_cases hregister : ∃ command, request = .register command
  · obtain ⟨command, rfl⟩ := hregister
    intro entry hentry
    rcases Table.mem_setIn hentry with rfl | hentry
    · exact hsafe
    · exact h.catalog entry hentry
  · rw [catalog_handle shell (not_exists.1 hregister)]
    exact h.catalog

/-- A line that is run keeps a shell sound. -/
theorem perform {session : Session} (h : shell.Sound) (hsession : shell.session = some session)
    (raw : String) (line : Except SyntaxError CommandLine) :
    (shell.perform session raw line).shell.Sound := by
  obtain ⟨recorded, hshell, hstore, -⟩ := session_perform shell session raw line
  rw [hshell]
  refine ⟨h.catalog, fun after hafter => ?_⟩
  cases hafter
  rw [hstore]
  exact (edits_attend h.catalog session line).wellFormed (h.store session hsession)

theorem handleAll (h : shell.Sound) {requests : List Request}
    (hsafe : ∀ request ∈ requests, request.IsSafe) : (shell.handleAll requests).Sound := by
  induction requests generalizing shell with
  | nil => exact h
  | cons request requests ih =>
    exact ih (h.handle (hsafe request List.mem_cons_self)) fun r hr =>
      hsafe r (List.mem_cons_of_mem request hr)

end Sound

/-- **The store of a running session is well formed** after whatever was asked of the shell before,
and whether it failed or not: the root and the working directory are directories, no path is both a
file and a directory, everything above a file or a directory is a directory, and all paths are
canonical. So the check of the store never finds a fault. -/
theorem wellFormed_of_handleAll (settings : Settings) (allowed : List String) (today : Date)
    (requests : List Request) (hsafe : ∀ request ∈ requests, request.IsSafe) (session : Session)
    (hrunning :
      ((create settings allowed today).handleAll requests).session = some session) :
    session.store.WellFormed ∧ Path.IsCanonical session.store.cwd ∧
      session.store.violation? = none := by
  have h := ((Sound.create settings allowed today).handleAll hsafe).store session hrunning
  exact ⟨h, h.isCanonical_cwd, h.violation?_eq_none⟩

theorem wellFormed_of_handleAll_default :
    ∃ session,
      ((create .default [] ⟨2024, 1, 2⟩).handleAll
        [.perform .clear, .start [.leaf ⟨"1", "..", .folder, none, none⟩],
          .perform (.createDirectory "/a" false)]).session = some session ∧
      session.store.WellFormed ∧ Path.IsCanonical session.store.cwd ∧
        session.store.violation? = none := by
  have hsafe : ∀ request ∈ [Request.perform .clear,
      .start [.leaf ⟨"1", "..", .folder, none, none⟩], .perform (.createDirectory "/a" false)],
      request.IsSafe := by
    simp only [List.forall_mem_cons, Request.IsSafe, Operation.IsCanonical, Operation.paths]
    exact ⟨by simp, trivial, by simpa using ⟨["a"], by decide, by decide⟩, by simp⟩
  exact ⟨_, rfl, wellFormed_of_handleAll .default [] ⟨2024, 1, 2⟩ _ hsafe _ rfl⟩

end Shell
end EditorShell

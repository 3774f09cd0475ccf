import EditorShell.Proofs.Project.Export
import EditorShell.Proofs.Shell.Run

/-!
# The tree that an editor shows

An editor takes the project tree once when a session starts or a tree is loaded, and from then on
it only listens to replies. It is never behind: a reply that brings no tree leaves directories and
files as they were. The reason is that the counter of the store tells every change
(`grown_perform`), and that commands change the store by operations. Which paths they name, whether
they fail half-way, and what the store was before, has no part in it.
-/

namespace EditorShell

/-- What the handler does to the store is a run of operations, on whatever paths. -/
def Handler.ActsByOperations (handler : Handler) : Prop :=
  ∀ (surroundings : Surroundings) (session : Session) (args : List String),
    ∃ operations, (handler.run surroundings session args).1.store =
      session.store.performAll operations

theorem Handler.EditsStore.actsByOperations {handler : Handler} (h : handler.EditsStore) :
    handler.ActsByOperations :=
  fun surroundings session args => (h surroundings session args).exists_performAll

/-- The tree shows directories and files only. -/
theorem Store.tree_eq_of_eq {store other : Store} (hdirs : store.directories = other.directories)
    (hfiles : store.files = other.files) : store.tree = other.tree := by
  obtain ⟨directories, files, cwd, revision⟩ := store
  obtain ⟨_, _, cwd', revision'⟩ := other
  subst hdirs hfiles
  rfl

/-- What a reply tells of the line that led from `session` to `after`. -/
structure Reply.Reports (reply : Reply) (session after : Session) : Prop where
  session_eq : reply.shell.session = some after
  /-- A tree that is shown is the tree of the store. -/
  tree : ∀ tree, reply.change = some tree → tree = after.store.tree
  /-- If no tree is shown, the store is as it was. -/
  unchanged : reply.change = none →
    after.store.directories = session.store.directories ∧
      after.store.files = session.store.files

namespace Shell

variable {shell : Shell}

/-- Every command is built in or changes the store by operations only. -/
def ActsByOperations (shell : Shell) : Prop :=
  ∀ entry ∈ shell.catalog.entries,
    entry ∈ Builtin.catalog.entries ∨ entry.2.handler.ActsByOperations

/-! ## One line -/

/-- The counter tells whether a line has changed a directory or a file. -/
theorem grown_attend (h : shell.ActsByOperations) (session : Session)
    (line : Except SyntaxError CommandLine) :
    session.store.Grown (shell.attend session line).session.store := by
  refine @attend_rel shell Store.Grown .refl Store.Grown.trans ?_ ?_ session line
  · intro entry hentry surroundings session args
    have hacts : entry.2.handler.ActsByOperations :=
      (h entry hentry).elim (fun hbuiltin =>
        (Builtin.editsStore_catalog entry hbuiltin).actsByOperations) id
    obtain ⟨operations, hrun⟩ := hacts surroundings session args
    rw [hrun]
    exact Store.grown_performAll session.store operations
  · intro session target text append
    exact Store.grown_perform session.store _

theorem reports_perform (h : shell.ActsByOperations) (session : Session) (raw : String)
    (line : Except SyntaxError CommandLine) :
    ∃ after, (shell.perform session raw line).Reports session after := by
  obtain ⟨recorded, hshell, hstore, hchange⟩ := session_perform shell session raw line
  refine ⟨recorded, by rw [hshell], fun tree htree => ?_, fun hnone => ?_⟩
  · rw [hchange] at htree
    split_ifs at htree
    exact (Option.some.inj htree).symm
  · rw [hchange] at hnone
    split_ifs at hnone with hrevision
    have hgrown := hstore ▸ grown_attend h session line
    exact hgrown.unchanged hrevision

/-- What has come of a line of a running session. -/
theorem reports_execute (h : shell.ActsByOperations) {session : Session}
    (hsession : shell.session = some session) (line : String) :
    ∃ reply after, shell.execute line = .ok reply ∧ reply.Reports session after := by
  simp only [execute, require, hsession, Except.map]
  split
  · exact ⟨⟨shell, .blank, none⟩, session, rfl, hsession, by simp, fun _ => ⟨rfl, rfl⟩⟩
  · obtain ⟨after, hafter⟩ := reports_perform h session (Text.strip line)
      (read session (Text.strip line))
    generalize shell.perform session (Text.strip line) (read session (Text.strip line)) = reply
      at hafter ⊢
    exact ⟨reply, after, rfl, hafter⟩

end Shell

/-! ## A run of requests -/

/-- The request leaves the store to the commands, and a command that is registered changes it by
operations only. -/
def Request.IsReported : Request → Prop
  | .perform _ => False
  | .register command => command.handler.ActsByOperations
  | _ => True

/-- An editor: a shell and the project tree that is shown. -/
structure Editor where
  shell : Shell
  shown : List ProjectNode

namespace Editor

variable {editor : Editor}

/-- What is shown after a request. The editor takes the tree by itself when a session starts or a
tree is loaded, and otherwise shows what it is told. -/
def shownAfter (editor : Editor) (request : Request) : List ProjectNode :=
  match request with
  | .start _ | .restart _ | .reload _ =>
    match (editor.shell.handle request).session with
    | some session => session.store.tree
    | none => editor.shown
  | .execute line =>
    match editor.shell.execute line with
    | .ok reply => reply.change.getD editor.shown
    | .error _ => editor.shown
  | _ => editor.shown

/-- The editor after a request, which may fail. -/
def handle (editor : Editor) (request : Request) : Editor :=
  ⟨editor.shell.handle request, editor.shownAfter request⟩

/-- The editor after requests in order. -/
def handleAll (editor : Editor) (requests : List Request) : Editor :=
  requests.foldl handle editor

/-- The tree that is shown is that of the running session. -/
structure IsCurrent (editor : Editor) : Prop where
  acts : editor.shell.ActsByOperations
  shown : ∀ session, editor.shell.session = some session → editor.shown = session.store.tree

theorem IsCurrent.create (settings : Settings) (allowed : List String) (today : Date)
    (shown : List ProjectNode) : IsCurrent ⟨.create settings allowed today, shown⟩ where
  acts _ hentry := .inl (List.mem_filter.1 hentry).1
  shown _ h := by cases h

theorem IsCurrent.acts_handle (h : editor.IsCurrent) {request : Request}
    (hreported : request.IsReported) : (editor.shell.handle request).ActsByOperations := by
  by_cases hregister : ∃ command, request = .register command
  · obtain ⟨command, rfl⟩ := hregister
    intro entry hentry
    rcases Table.mem_setIn hentry with rfl | hentry
    · exact .inr hreported
    · exact h.acts entry hentry
  · rw [Shell.ActsByOperations, Shell.catalog_handle editor.shell (not_exists.1 hregister)]
    exact h.acts

/-- A line keeps the tree that is shown current. -/
theorem IsCurrent.shownAfter_execute (h : editor.IsCurrent) {line : String} {session : Session}
    (hsession : (editor.shell.handle (.execute line)).session = some session) :
    editor.shownAfter (.execute line) = session.store.tree := by
  cases hold : editor.shell.session with
  | none =>
    simp [Shell.handle, Shell.execute, Shell.require, hold, Except.map] at hsession
  | some old =>
    obtain ⟨reply, after, hreply, hreports⟩ := Shell.reports_execute h.acts hold line
    simp only [Shell.handle, hreply, hreports.session_eq, Option.some.injEq] at hsession
    subst hsession
    simp only [shownAfter, hreply]
    cases hchange : reply.change with
    | some tree => exact hreports.tree tree hchange
    | none =>
      obtain ⟨hdirs, hfiles⟩ := hreports.unchanged hchange
      rw [Option.getD_none, h.shown old hold, Store.tree_eq_of_eq hdirs hfiles]

/-- **A request keeps the editor current,** whether it fails or not. -/
theorem IsCurrent.handle (h : editor.IsCurrent) {request : Request}
    (hreported : request.IsReported) : (editor.handle request).IsCurrent := by
  refine ⟨h.acts_handle hreported, fun session hsession => ?_⟩
  simp only [Editor.handle] at hsession ⊢
  cases request with
  | start tree => simp only [shownAfter, hsession]
  | restart tree => simp only [shownAfter, hsession]
  | reload tree => simp only [shownAfter, hsession]
  | stop => cases hsession
  | perform operation => exact hreported.elim
  | register command => exact h.shown session hsession
  | execute line => exact h.shownAfter_execute hsession

theorem IsCurrent.handleAll (h : editor.IsCurrent) {requests : List Request}
    (hreported : ∀ request ∈ requests, request.IsReported) :
    (editor.handleAll requests).IsCurrent := by
  induction requests generalizing editor with
  | nil => exact h
  | cons request requests ih =>
    exact ih (h.handle (hreported request List.mem_cons_self)) fun r hr =>
      hreported r (List.mem_cons_of_mem request hr)

/-- **The tree that an editor shows is never behind.** A line of a running session shows at most
one tree. That tree is the one of the store after the line, and if no tree is shown, directories
and files, with their texts, types and identities, are what they were before. So after any run of
starts, stops, loaded trees, lines and registrations, whatever of it failed, the tree that was
shown last is the tree of the store. -/
theorem shown_eq_tree :
    (∀ (shell : Shell) (session : Session), shell.ActsByOperations →
      shell.session = some session → ∀ line, ∃ reply after,
        shell.execute line = .ok reply ∧ reply.shell.session = some after ∧
        (∀ tree, reply.change = some tree → tree = after.store.tree) ∧
        (reply.change = none → after.store.directories = session.store.directories ∧
          after.store.files = session.store.files)) ∧
    ∀ (settings : Settings) (allowed : List String) (today : Date) (shown : List ProjectNode)
      (requests : List Request), (∀ request ∈ requests, request.IsReported) →
        ∀ session,
          ((Editor.mk (.create settings allowed today) shown).handleAll requests).shell.session =
            some session →
          ((Editor.mk (.create settings allowed today) shown).handleAll requests).shown =
            session.store.tree := by
  refine ⟨fun shell session hacts hsession line => ?_, ?_⟩
  · obtain ⟨reply, after, hreply, hreports⟩ := Shell.reports_execute hacts hsession line
    exact ⟨reply, after, hreply, hreports.session_eq, hreports.tree, hreports.unchanged⟩
  · intro settings allowed today shown requests hreported session hsession
    exact ((IsCurrent.create settings allowed today shown).handleAll hreported).shown session
      hsession

/-- A command that creates a directory on a path that is not canonical, and then crashes. -/
def crashing : Command :=
  ⟨⟨"crash", "", "", "", .never⟩, .edit fun _ session _ =>
    ({ session with store := (session.store.perform (.createDirectory "b" true)).1 },
      .error (.crashed ""))⟩

theorem shown_eq_tree_crashing :
    (∃ reply after,
      Shell.execute ⟨.default, Builtin.catalog, ⟨2024, 1, 2⟩, none,
        some ⟨.empty, .empty, .empty, ⟨[], 0, 0⟩⟩⟩ "mkdir a > b" = .ok reply ∧
      reply.shell.session = some after ∧
      (∀ tree, reply.change = some tree → tree = after.store.tree) ∧
      (reply.change = none → after.store.directories = Store.empty.directories ∧
        after.store.files = Store.empty.files)) ∧
    ∃ session,
      ((Editor.mk (.create .default [] ⟨2024, 1, 2⟩) []).handleAll
        [.start [.leaf ⟨"1", "a", .folder, none, none⟩], .register crashing]).shell.session =
          some session ∧
      ((Editor.mk (.create .default [] ⟨2024, 1, 2⟩) []).handleAll
        [.start [.leaf ⟨"1", "a", .folder, none, none⟩], .register crashing]).shown =
          session.store.tree := by
  have hreported : ∀ request ∈ [Request.start [.leaf ⟨"1", "a", .folder, none, none⟩],
      .register crashing], request.IsReported := by
    simp only [List.forall_mem_cons, Request.IsReported]
    exact ⟨trivial, fun _ _ _ => ⟨[.createDirectory "b" true], rfl⟩, by simp⟩
  refine ⟨?_, _, rfl, shown_eq_tree.2 .default [] ⟨2024, 1, 2⟩ [] _ hreported _ rfl⟩
  exact shown_eq_tree.1
    ⟨.default, Builtin.catalog, ⟨2024, 1, 2⟩, none, some ⟨.empty, .empty, .empty, ⟨[], 0, 0⟩⟩⟩
    ⟨.empty, .empty, .empty, ⟨[], 0, 0⟩⟩ (fun _ hentry => .inl hentry) rfl "mkdir a > b"

end Editor
end EditorShell

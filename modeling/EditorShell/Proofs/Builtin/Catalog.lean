import EditorShell.Proofs.Builtin.Effects

/-!
# What built-in commands can do

Every entry of the catalog of built-in commands has the handler of a command of the source lists, so
what holds of those handlers holds of the catalog (`forall_enterAll`, `forall_catalog`). In this way
it is seen that a built-in command changes no part of the session but those it owns
(`keepsTo_catalog`), and that it changes the store by operations only (`editsStore_catalog`).
-/

namespace EditorShell

open Builtin

namespace Table

variable {α : Type*}

theorem mem_setIn {key : String} {value : α} {entry : String × α} {entries : List (String × α)}
    (h : entry ∈ setIn key value entries) : entry = (key, value) ∨ entry ∈ entries := by
  induction entries with
  | nil => simpa [setIn] using h
  | cons first rest ih =>
    unfold setIn at h
    split at h
    · rcases List.mem_cons.1 h with rfl | h
      · exact .inl rfl
      · exact .inr (List.mem_cons_of_mem first h)
    · rcases List.mem_cons.1 h with rfl | h
      · exact .inr List.mem_cons_self
      · exact (ih h).imp_right (List.mem_cons_of_mem first)

theorem mem_entries_of_get? {t : Table α} {key : String} {value : α} (h : t.get? key = some value) :
    (key, value) ∈ t.entries := by
  obtain ⟨before, after, heq, -⟩ := List.lookup_eq_some_iff.1 h
  rw [heq]
  simp

end Table

namespace Catalog

variable {P : String → Handler → Prop} {catalog : Catalog}

/-- An entry made by `enterAll` has the name and the handler of a command that is entered. -/
theorem forall_enterAll {commands : List Command}
    (hcatalog : ∀ entry ∈ catalog.entries, P entry.1 entry.2.handler)
    (hcommands : ∀ command ∈ commands, P command.info.name command.handler) :
    ∀ entry ∈ (catalog.enterAll commands).1.entries, P entry.1 entry.2.handler := by
  induction commands generalizing catalog with
  | nil => exact hcatalog
  | cons command commands ih =>
    unfold enterAll
    split
    · exact hcatalog
    next entered henter =>
      refine ih (fun entry hentry => ?_) fun c hc => hcommands c (List.mem_cons_of_mem command hc)
      simp only [enter] at henter
      split at henter
      · cases henter
      · cases henter
        rcases Table.mem_setIn hentry with rfl | hentry
        · exact hcommands command List.mem_cons_self
        · exact hcatalog entry hentry

theorem forall_enterWithAliases {command : Command} {aliases : List String}
    (hcatalog : ∀ entry ∈ catalog.entries, P entry.1 entry.2.handler)
    (hcommand : ∀ name ∈ command.info.name :: aliases, P name command.handler) :
    ∀ entry ∈ (catalog.enterWithAliases command aliases).1.entries, P entry.1 entry.2.handler := by
  refine forall_enterAll hcatalog fun renamed hrenamed => ?_
  obtain ⟨name, hname, rfl⟩ := List.mem_map.1 hrenamed
  exact hcommand name hname

end Catalog

/-- Whatever the handler does to the store, it does by operations. -/
def Handler.EditsStore (handler : Handler) : Prop :=
  ∀ (surroundings : Surroundings) (session : Session) (args : List String),
    session.store.Edits (handler.run surroundings session args).1.store

namespace Handler.EditsStore

@[simp] theorem view (run : Surroundings → Session → List String → Outcome) :
    (view run).EditsStore := by
  intro surroundings session args
  exact .refl

variable {run : Surroundings → Session → List String → Session × Outcome}

theorem of_edits
    (h : ∀ (s : Surroundings) (session : Session) (args : List String),
      session.Edits (run s session args).1) : (edit run).EditsStore := by
  intro surroundings session args
  exact (h surroundings session args).store

/-- A handler that keeps to what does not own the store leaves it alone. -/
theorem of_keepsTo {name : String} (h : (edit run).KeepsTo name) (hstore : name ∉ storeOwners)
    (hcwd : name ∉ cwdOwners) : (edit run).EditsStore := by
  intro surroundings session args
  rw [(h surroundings session args).store_eq hstore hcwd]
  exact .refl

end Handler.EditsStore

namespace Builtin

/-- What holds of the handlers of the source lists holds of every built-in command. -/
theorem forall_catalog {P : String → Handler → Prop}
    (hplain : ∀ command ∈ plainCommands, P command.info.name command.handler)
    (haliased : ∀ entry ∈ aliasedCommands, ∀ name ∈ entry.1.info.name :: entry.2,
      P name entry.1.handler) :
    ∀ entry ∈ catalog.entries, P entry.1 entry.2.handler := by
  unfold catalog
  have hstart : ∀ entry ∈ (Catalog.enterAll .empty plainCommands).1.entries,
      P entry.1 entry.2.handler := Catalog.forall_enterAll (by simp [Table.empty]) hplain
  generalize (Catalog.enterAll .empty plainCommands).1 = start at hstart
  generalize aliasedCommands = aliased at haliased
  induction aliased generalizing start with
  | nil => exact hstart
  | cons first rest ih =>
    exact ih _ (Catalog.forall_enterWithAliases hstart (haliased first List.mem_cons_self))
      fun entry h => haliased entry (List.mem_cons_of_mem first h)

/-- The commands that edit. All others are views. -/
def editors : List (String × (Surroundings → Session → List String → Session × Outcome)) :=
  [("touch", touch), ("mkdir", mkdir), ("rm", rm), ("cp", cp), ("mv", mv), ("cd", cd),
    ("export", exportVariables), ("unset", unsetVariables), ("alias", defineAliases),
    ("unalias", removeAliases), ("history", history)]

/-- What holds of the views and of the commands that edit holds of every built-in command. -/
theorem forall_catalog_of_editors {P : String → Handler → Prop}
    (hview : ∀ (name : String) (run : Surroundings → Session → List String → Outcome),
      name ∉ editors.map Prod.fst → P name (.view run))
    (heditors : ∀ editor ∈ editors, P editor.1 (.edit editor.2)) :
    ∀ entry ∈ catalog.entries, P entry.1 entry.2.handler := by
  simp only [editors, List.forall_mem_cons, List.map_cons, List.map_nil] at hview heditors
  refine forall_catalog ?_ ?_
  · simp [plainCommands, editingCommands, readingCommands, listingCommands, searchingCommands,
      variableCommands, terminalCommands, Git.command, Transfer.commands, Packages.npxCommand,
      Runtimes.nodeCommand, Runtimes.serveCommand, hview, heditors]
  · simp [aliasedCommands, Packages.managerCommand, Runtimes.pythonCommand, Packages.pipCommand,
      hview]

/-- **A built-in command changes what it owns, and nothing else of the session.** -/
theorem keepsTo_catalog : ∀ entry ∈ catalog.entries, entry.2.handler.KeepsTo entry.1 := by
  refine @forall_catalog_of_editors (fun name handler => handler.KeepsTo name) ?_ ?_
  · intro name run hname
    refine Handler.keepsTo_view ?_ run
    rintro rfl
    exact hname (by decide)
  · simp [editors, keepsTo_touch, keepsTo_mkdir, keepsTo_rm, keepsTo_cp, keepsTo_mv, keepsTo_cd,
      keepsTo_exportVariables, keepsTo_unsetVariables, keepsTo_defineAliases,
      keepsTo_removeAliases, keepsTo_history]

/-- What holds of every command that leaves the variables alone, and of the three that do not, holds
of every built-in command. -/
theorem forall_catalog_of_environmentOwners {P : String → Handler → Prop}
    (hkeeps : ∀ (name : String) (handler : Handler), handler.KeepsTo name →
      name ∉ environmentOwners → P name handler)
    (howners : P "cd" (.edit cd) ∧ P "export" (.edit exportVariables) ∧
      P "unset" (.edit unsetVariables)) :
    ∀ entry ∈ catalog.entries, P entry.1 entry.2.handler := by
  have heditors : ∀ name ∈ environmentOwners, name ∈ editors.map Prod.fst := by decide
  have howned : ∀ entry ∈ catalog.entries, entry.1 ∈ environmentOwners →
      P entry.1 entry.2.handler := by
    refine @forall_catalog_of_editors
      (fun name handler => name ∈ environmentOwners → P name handler) ?_ ?_
    · intro name run hname howner
      exact absurd (heditors name howner) hname
    · simp [editors, environmentOwners, howners]
  intro entry hentry
  by_cases howner : entry.1 ∈ environmentOwners
  · exact howned entry hentry howner
  · exact hkeeps entry.1 entry.2.handler (keepsTo_catalog entry hentry) howner

theorem edits_go {session : Session} {path : String} (hdir : session.store.isDirectory path = true)
    (hpath : session.store.WellFormed → Path.IsCanonical path) :
    session.store.Edits (go session path).store := by
  have h : session.store.Edits (session.store.perform (.changeDirectory path)).1 :=
    .single _ fun hwell p hp => List.mem_singleton.1 hp ▸ hpath hwell
  rwa [Store.perform, Store.changeDirectory, if_pos hdir] at h

theorem edits_cd (s : Surroundings) (session : Session) (args : List String) :
    session.store.Edits (cd s session args).1.store := by
  have hresolve (typed : String) (hwell : session.store.WellFormed) :=
    Session.isCanonical_resolve_of_wellFormed hwell s.settings typed
  unfold cd
  split
  · exact .refl
  · simp only
    split_ifs with hback hdir hdir
    · exact edits_go hdir (hresolve _)
    · exact .refl
    · exact edits_go hdir (hresolve _)
    · exact .refl

/-- **A built-in command changes the store by operations only.** -/
theorem editsStore_catalog : ∀ entry ∈ catalog.entries, entry.2.handler.EditsStore := by
  refine @forall_catalog_of_editors (fun _ handler => handler.EditsStore)
    (fun _ run _ => .view run) ?_
  have hfiles : (Handler.edit touch).EditsStore ∧ (Handler.edit mkdir).EditsStore ∧
      (Handler.edit rm).EditsStore ∧ (Handler.edit cp).EditsStore ∧ (Handler.edit mv).EditsStore :=
    ⟨.of_edits edits_touch, .of_edits edits_mkdir, .of_edits edits_rm, .of_edits edits_cp,
      .of_edits edits_mv⟩
  have hcd : (Handler.edit cd).EditsStore := edits_cd
  have hrest : (Handler.edit exportVariables).EditsStore ∧
      (Handler.edit unsetVariables).EditsStore ∧ (Handler.edit defineAliases).EditsStore ∧
      (Handler.edit removeAliases).EditsStore ∧ (Handler.edit history).EditsStore :=
    ⟨.of_keepsTo keepsTo_exportVariables (by decide) (by decide),
      .of_keepsTo keepsTo_unsetVariables (by decide) (by decide),
      .of_keepsTo keepsTo_defineAliases (by decide) (by decide),
      .of_keepsTo keepsTo_removeAliases (by decide) (by decide),
      .of_keepsTo keepsTo_history (by decide) (by decide)⟩
  simp [editors, hfiles, hcd, hrest]

end Builtin
end EditorShell

import EditorShell.Proofs.Builtin.Editing
import EditorShell.Proofs.Store.Cwd

/-!
# What built-in commands leave alone

A handler that edits gets the whole session and could change any part of it. Each part has its
owners, the commands that do change it, and what a handler that edits does is confined to what its
command owns (`Handler.KeepsTo`), whatever the arguments and the files. A view leaves everything
alone, by its type.
-/

namespace EditorShell

/-! ## The parts of a session and their owners -/

namespace Builtin

/-- The commands that change directories and files. -/
def storeOwners : List String := ["touch", "mkdir", "rm", "cp", "mv"]

/-- The commands that change the working directory. -/
def cwdOwners : List String := ["cd", "rm", "mv"]

/-- The commands that change variables. -/
def environmentOwners : List String := ["cd", "export", "unset"]

/-- The commands that change aliases. -/
def aliasOwners : List String := ["alias", "unalias"]

/-- The commands that change any of these. All others answer and leave the session as it is, except
that `history` can empty the history. -/
def owners : List String := storeOwners ++ cwdOwners ++ environmentOwners ++ aliasOwners

/-- The simulated tools own nothing, nor does what searches, lists or shows files. -/
example : ∀ name ∈ ["npm", "yarn", "pnpm", "npx", "node", "python", "pip", "serve", "git", "curl",
    "wget", "grep", "find", "ls", "tree", "cat", "head", "tail", "wc"], name ∉ owners := by
  decide

/-- A call of `history` with these arguments forgets what was run. -/
def Forgets (name : String) (args : List String) : Prop := name = "history" ∧ "-c" ∈ args

instance (name : String) (args : List String) : Decidable (Forgets name args) :=
  inferInstanceAs (Decidable (_ ∧ _))

theorem not_forgets {name : String} (h : name ≠ "history") (args : List String) :
    ¬Forgets name args := fun hforgets => h hforgets.1

end Builtin

open Builtin

attribute [ext] Store

/-- `after` differs from `session` at most in what the command `name`, called with `args`, owns. -/
structure Session.Confined (session : Session) (name : String) (args : List String)
    (after : Session) : Prop where
  store : name ∉ storeOwners → after.store.directories = session.store.directories ∧
    after.store.files = session.store.files ∧ after.store.revision = session.store.revision
  cwd : name ∉ cwdOwners → after.store.cwd = session.store.cwd
  environment : name ∉ environmentOwners → after.environment = session.environment
  aliases : name ∉ aliasOwners → after.aliases = session.aliases
  history : after.history = if Forgets name args then session.history.clear else session.history

namespace Session.Confined

variable {session after : Session} {name : String} {args : List String}

theorem refl (hargs : ¬Forgets name args) : session.Confined name args session :=
  ⟨fun _ => ⟨rfl, rfl, rfl⟩, fun _ => rfl, fun _ => rfl, fun _ => rfl, (if_neg hargs).symm⟩

/-- The working directory and the rest of the store have owners of their own. -/
theorem store_eq (h : session.Confined name args after) (hstore : name ∉ storeOwners)
    (hcwd : name ∉ cwdOwners) : after.store = session.store := by
  obtain ⟨hdirectories, hfiles, hrevision⟩ := h.store hstore
  exact Store.ext hdirectories hfiles (h.cwd hcwd) hrevision

/-- Only the store has been edited. -/
theorem of_edits (h : session.Edits after) (hargs : ¬Forgets name args)
    (hstore : name ∈ storeOwners) (hcwd : name ∉ cwdOwners → after.store.cwd = session.store.cwd) :
    session.Confined name args after := by
  rw [h.rest] at hcwd ⊢
  exact ⟨fun hnot => absurd hstore hnot, hcwd, fun _ => rfl, fun _ => rfl, (if_neg hargs).symm⟩

theorem withEnvironment (environment : Table String) (hargs : ¬Forgets name args)
    (howner : name ∈ environmentOwners) :
    session.Confined name args { session with environment := environment } :=
  ⟨fun _ => ⟨rfl, rfl, rfl⟩, fun _ => rfl, fun hnot => absurd howner hnot, fun _ => rfl,
    (if_neg hargs).symm⟩

theorem withAliases (aliases : Table String) (hargs : ¬Forgets name args)
    (howner : name ∈ aliasOwners) :
    session.Confined name args { session with aliases := aliases } :=
  ⟨fun _ => ⟨rfl, rfl, rfl⟩, fun _ => rfl, fun _ => rfl, fun hnot => absurd howner hnot,
    (if_neg hargs).symm⟩

end Session.Confined

/-- The handler keeps to what the command `name` owns. -/
def Handler.KeepsTo (name : String) (handler : Handler) : Prop :=
  ∀ (surroundings : Surroundings) (session : Session) (args : List String),
    session.Confined name args (handler.run surroundings session args).1

/-- A view leaves everything alone, whatever its name, as long as it is not to forget. -/
theorem Handler.keepsTo_view {name : String} (hname : name ≠ "history")
    (run : Surroundings → Session → List String → Outcome) : (view run).KeepsTo name :=
  fun _ _ args => .refl (not_forgets hname args)

/-- A handler that edits files keeps to the store, and to the working directory if it must. -/
theorem Handler.keepsTo_edit {name : String}
    {run : Surroundings → Session → List String → Session × Outcome}
    (hedits : ∀ (s : Surroundings) (session : Session) (args : List String),
      session.Edits (run s session args).1)
    (hname : name ≠ "history") (hstore : name ∈ storeOwners)
    (hcwd : name ∉ cwdOwners → ∀ (s : Surroundings) (session : Session) (args : List String),
      (run s session args).1.store.cwd = session.store.cwd) : (edit run).KeepsTo name := by
  intro s session args
  refine .of_edits (hedits s session args) (not_forgets hname args) hstore ?_
  intro hnot
  exact hcwd hnot s session args

namespace Builtin

/-! ## The commands that edit -/

/-- Operands handled one by one leave the working directory alone if each of them does. -/
theorem cwd_foldl {act : Progress → String → Progress}
    (hact : ∀ (progress : Progress) (arg : String),
      (act progress arg).session.store.cwd = progress.session.store.cwd)
    (progress : Progress) (args : List String) :
    (args.foldl act progress).session.store.cwd = progress.session.store.cwd := by
  induction args generalizing progress with
  | nil => rfl
  | cons arg args ih => rw [List.foldl_cons, ih, hact]

theorem cwd_touch (s : Surroundings) (session : Session) (args : List String) :
    (touch s session args).1.store.cwd = session.store.cwd := by
  unfold touch
  split
  · rfl
  · refine cwd_foldl (fun progress arg => ?_) ⟨session, []⟩ args
    rw [session_touchOne]
    exact Store.cwd_perform id

theorem cwd_mkdir (s : Surroundings) (session : Session) (args : List String) :
    (mkdir s session args).1.store.cwd = session.store.cwd := by
  simp only [mkdir]
  split
  · rfl
  · refine cwd_foldl (fun progress arg => ?_) ⟨session, []⟩ (operands args)
    rw [session_mkdirOne]
    exact Store.cwd_perform id

theorem cwd_cp (s : Surroundings) (session : Session) (args : List String) :
    (cp s session args).1.store.cwd = session.store.cwd := by
  simp only [cp]
  split
  · rfl
  · split_ifs
    · rfl
    · rfl
    · rw [session_afterAttempt]
      exact Store.cwd_copyDirectory ..
    · rfl
    · rfl
    · rw [session_afterAttempt]
      exact Store.cwd_attempt fun _ => Store.cwd_copyFile

theorem keepsTo_touch : (Handler.edit touch).KeepsTo "touch" :=
  Handler.keepsTo_edit edits_touch (by decide) (by decide) fun _ => cwd_touch

theorem keepsTo_mkdir : (Handler.edit mkdir).KeepsTo "mkdir" :=
  Handler.keepsTo_edit edits_mkdir (by decide) (by decide) fun _ => cwd_mkdir

theorem keepsTo_rm : (Handler.edit rm).KeepsTo "rm" :=
  Handler.keepsTo_edit edits_rm (by decide) (by decide) fun hnot => absurd (by decide) hnot

theorem keepsTo_cp : (Handler.edit cp).KeepsTo "cp" :=
  Handler.keepsTo_edit edits_cp (by decide) (by decide) fun _ => cwd_cp

theorem keepsTo_mv : (Handler.edit mv).KeepsTo "mv" :=
  Handler.keepsTo_edit edits_mv (by decide) (by decide) fun hnot => absurd (by decide) hnot

theorem keepsTo_cd : (Handler.edit cd).KeepsTo "cd" := by
  intro s session args
  have hargs := not_forgets (by decide : "cd" ≠ "history") args
  -- what `go` changes belongs to `cd`, and so does the variable that tells where it went
  have hgo (path : String) : session.Confined "cd" args (go session path) :=
    ⟨fun _ => ⟨rfl, rfl, rfl⟩, fun hnot => absurd (by decide) hnot,
      fun hnot => absurd (by decide) hnot, fun _ => rfl, (if_neg hargs).symm⟩
  show session.Confined "cd" args (cd s session args).1
  unfold cd
  split
  · exact .refl hargs
  · simp only
    split_ifs
    · exact hgo _
    · exact .refl hargs
    · exact hgo _
    · exact .refl hargs

/-- An argument of `export` that is not refused sets the variable that it names or nothing. -/
theorem cases_exportOne {session after : Session} {arg : String}
    (h : exportOne session arg = .ok after) :
    after = session ∨ ∃ value, after =
      { session with
        environment := session.environment.set (Text.partition '=' arg).1 value } := by
  simp only [exportOne] at h
  split_ifs at h
  split at h <;> cases h
  · exact .inl rfl
  · exact .inr ⟨_, rfl⟩

theorem exportAll_cons_ok {session after : Session} {first : String}
    (h : exportOne session first = .ok after) (args : List String) :
    exportAll session (first :: args) = exportAll after args := by
  conv_lhs => unfold exportAll
  rw [h]

theorem exportAll_cons_error {session : Session} {first message : String}
    (h : exportOne session first = .error message) (args : List String) :
    exportAll session (first :: args) =
      ((exportAll session args).1, message :: (exportAll session args).2) := by
  conv_lhs => unfold exportAll
  rw [h]

theorem exists_exportAll (session : Session) (args : List String) :
    ∃ environment, (exportAll session args).1 = { session with environment := environment } := by
  induction args generalizing session with
  | nil => exact ⟨session.environment, rfl⟩
  | cons arg args ih =>
    cases hone : exportOne session arg with
    | ok after =>
      obtain ⟨environment, heq⟩ := ih after
      rw [exportAll_cons_ok hone, heq]
      obtain rfl | ⟨value, rfl⟩ := cases_exportOne hone <;> exact ⟨environment, rfl⟩
    | error message =>
      rw [exportAll_cons_error hone]
      exact ih session

theorem keepsTo_exportVariables : (Handler.edit exportVariables).KeepsTo "export" := by
  intro s session args
  have hargs := not_forgets (by decide : "export" ≠ "history") args
  show session.Confined "export" args (exportVariables s session args).1
  unfold exportVariables
  split
  · exact .refl hargs
  · obtain ⟨environment, heq⟩ := exists_exportAll session args
    simp only [heq]
    exact .withEnvironment environment hargs (by decide)

theorem keepsTo_unsetVariables : (Handler.edit unsetVariables).KeepsTo "unset" := by
  intro s session args
  have hargs := not_forgets (by decide : "unset" ≠ "history") args
  exact .withEnvironment _ hargs (by decide)

theorem keepsTo_defineAliases : (Handler.edit defineAliases).KeepsTo "alias" := by
  intro s session args
  have hargs := not_forgets (by decide : "alias" ≠ "history") args
  show session.Confined "alias" args (defineAliases s session args).1
  unfold defineAliases
  split
  · exact .refl hargs
  · exact .withAliases _ hargs (by decide)

theorem keepsTo_removeAliases : (Handler.edit removeAliases).KeepsTo "unalias" := by
  intro s session args
  have hargs := not_forgets (by decide : "unalias" ≠ "history") args
  show session.Confined "unalias" args (removeAliases s session args).1
  unfold removeAliases
  split
  · exact .refl hargs
  · exact .withAliases _ hargs (by decide)

theorem keepsTo_history : (Handler.edit history).KeepsTo "history" := by
  intro s session args
  show session.Confined "history" args (history s session args).1
  unfold history
  split
  next hclear =>
    have hargs : Forgets "history" args := ⟨rfl, by simpa using hclear⟩
    exact ⟨fun _ => ⟨rfl, rfl, rfl⟩, fun _ => rfl, fun _ => rfl, fun _ => rfl, (if_pos hargs).symm⟩
  next hclear =>
    have hargs : ¬Forgets "history" args := fun h => hclear (by simpa using h.2)
    split
    · exact .refl hargs
    · split <;> exact .refl hargs

end Builtin
end EditorShell

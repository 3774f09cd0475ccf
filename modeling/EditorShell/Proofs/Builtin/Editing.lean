import EditorShell.Builtin
import EditorShell.Proofs.Path.Resolve
import EditorShell.Proofs.Store.Run

/-!
# Commands edit by operations

A command that changes files asks the store for one operation per operand, or for one operation in
all, and changes nothing else of the session. The paths it asks for come from what the user typed,
so they are canonical in a well-formed store. The one path that is not of this form is a
destination in a directory for the source `/`, whose name is empty; `cp` and `mv` refuse that
source before they ask for anything.
-/

namespace EditorShell

namespace Session

variable {session middle done : Session}

/-- `done` differs from `session` in the store alone, and the store by operations. -/
structure Edits (session done : Session) : Prop where
  store : session.store.Edits done.store
  rest : done = { session with store := done.store }

namespace Edits

theorem refl (session : Session) : session.Edits session := ⟨.refl, rfl⟩

theorem trans (h : session.Edits middle) (h' : middle.Edits done) : session.Edits done := by
  refine ⟨h.store.trans h'.store, ?_⟩
  rw [h'.rest, h.rest]

/-- One operation on the store. -/
theorem perform (session : Session) (operation : Operation)
    (hop : session.store.WellFormed → operation.IsCanonical) :
    session.Edits { session with store := (session.store.perform operation).1 } :=
  ⟨.single operation hop, rfl⟩

end Edits

/-- What is typed in a session over a well-formed store denotes a canonical path. -/
theorem isCanonical_resolve_of_wellFormed (h : session.store.WellFormed) (settings : Settings)
    (path : String) : Path.IsCanonical (session.resolve settings path) :=
  isCanonical_resolve h.isCanonical_cwd settings path

end Session

namespace Builtin

variable {settings : Settings} {progress : Progress} {session : Session}

/-! ## Operand by operand -/

/-- For each operand `touch` asks for one operation. -/
theorem session_touchOne (settings : Settings) (progress : Progress) (arg : String) :
    (touchOne settings progress arg).session =
      { progress.session with
        store := (progress.session.store.perform
          (.touch (progress.session.resolve settings arg))).1 } := by
  simp only [touchOne, Store.perform, Store.attempt]
  cases progress.session.store.touch (progress.session.resolve settings arg) <;> rfl

/-- For each operand `mkdir` asks for one operation. -/
theorem session_mkdirOne (settings : Settings) (parents : Bool) (progress : Progress)
    (arg : String) :
    (mkdirOne settings parents progress arg).session =
      { progress.session with
        store := (progress.session.store.perform
          (.createDirectory (progress.session.resolve settings arg) parents)).1 } := by
  simp only [mkdirOne, Store.perform, Store.attempt]
  cases progress.session.store.createDirectory (progress.session.resolve settings arg) parents <;>
    rfl

/-- An operation on what an operand denotes. -/
theorem edits_operand (settings : Settings) (progress : Progress) (arg : String)
    {operation : Operation}
    (hpaths : operation.paths = [progress.session.resolve settings arg]) :
    progress.session.Edits
      { progress.session with store := (progress.session.store.perform operation).1 } := by
  refine .perform _ _ fun hwell path hpath => ?_
  rw [hpaths, List.mem_singleton] at hpath
  rw [hpath]
  exact Session.isCanonical_resolve_of_wellFormed hwell settings arg

/-- Steps that edit make up a run that edits. -/
theorem edits_foldl {act : Progress → String → Progress}
    (hact : ∀ (progress : Progress) (arg : String),
      progress.session.Edits (act progress arg).session)
    (progress : Progress) (args : List String) :
    progress.session.Edits (args.foldl act progress).session := by
  induction args generalizing progress with
  | nil => exact .refl _
  | cons arg args ih => exact (hact progress arg).trans (ih _)

theorem edits_touch (s : Surroundings) (session : Session) (args : List String) :
    session.Edits (touch s session args).1 := by
  unfold touch
  split
  · exact .refl session
  · refine edits_foldl (fun progress arg => ?_) ⟨session, []⟩ args
    rw [session_touchOne]
    exact edits_operand s.settings progress arg rfl

theorem edits_mkdir (s : Surroundings) (session : Session) (args : List String) :
    session.Edits (mkdir s session args).1 := by
  simp only [mkdir]
  split
  · exact .refl session
  · refine edits_foldl (fun progress arg => ?_) ⟨session, []⟩ (operands args)
    rw [session_mkdirOne]
    exact edits_operand s.settings progress arg rfl

/-- For each operand `rm` asks for one operation at most, and for none at the root. -/
theorem session_rmOne {mode : RemovalMode} {arg : String} {after : Progress}
    (hok : rmOne settings mode progress arg = .ok after) :
    after.session = progress.session ∨
      progress.session.resolve settings arg ≠ Path.root ∧
        ∃ operation, (operation = .deleteFile (progress.session.resolve settings arg) ∨
            operation =
              .deleteDirectory (progress.session.resolve settings arg) mode.recursive) ∧
          after.session =
            { progress.session with store := (progress.session.store.perform operation).1 } := by
  simp only [rmOne] at hok
  split_ifs at hok with hroot
  · cases hok
    exact .inl rfl
  · refine .inr ⟨hroot, _, .inl rfl, ?_⟩
    obtain ⟨store, hdelete, rfl⟩ : ∃ store,
        progress.session.store.deleteFile (progress.session.resolve settings arg) = .ok store ∧
          progress.withStore store = after := by
      cases hdelete : progress.session.store.deleteFile _ <;> simp_all [Except.map]
    rw [Store.perform, hdelete]
    rfl
  · split at hok
    next store hdelete =>
      cases hok
      refine .inr ⟨hroot, _, .inr rfl, ?_⟩
      rw [Store.perform, hdelete]
      rfl
    · cases hok
      exact .inl rfl
    · cases hok
  all_goals
    cases hok
    exact .inl rfl

theorem edits_rmOne {mode : RemovalMode} {arg : String} {after : Progress}
    (hok : rmOne settings mode progress arg = .ok after) :
    progress.session.Edits after.session := by
  obtain hsame | ⟨-, operation, hoperation, hsession⟩ := session_rmOne hok
  · rw [hsame]
    exact .refl _
  · rw [hsession]
    refine edits_operand settings progress arg ?_
    obtain rfl | rfl := hoperation <;> rfl

theorem edits_rmAll (mode : RemovalMode) (progress : Progress) (args : List String) :
    progress.session.Edits (rmAll settings mode progress args).1 := by
  induction args generalizing progress with
  | nil => exact .refl _
  | cons arg args ih =>
    unfold rmAll
    split
    next after hone => exact (edits_rmOne hone).trans (ih after)
    next error hone => exact .refl _

theorem edits_rm (s : Surroundings) (session : Session) (args : List String) :
    session.Edits (rm s session args).1 := by
  simp only [rm]
  split_ifs
  · exact .refl session
  · exact .refl session
  · exact edits_rmAll _ ⟨session, []⟩ _

/-! ## Copying and moving -/

theorem session_afterAttempt (session : Session) (explain : StoreError → String)
    (attempt : Store.Attempt) :
    (afterAttempt session explain attempt).1 = { session with store := attempt.1 } := by
  rcases attempt with ⟨store, _ | error⟩ <;> rfl

/-- Only for the root is the destination in a directory no canonical path. -/
theorem isCanonical_destination {source target : String} (hsource : Path.IsCanonical source)
    (htarget : Path.IsCanonical target) (hne : source ≠ Path.root) (store : Store) :
    Path.IsCanonical (destination store source target) := by
  unfold destination
  split
  · exact Path.isCanonical_child htarget (Path.isSegment_name hsource hne)
  · exact htarget

/-- An operation from a source to its destination. -/
theorem edits_destination {source target : String}
    (hsource : session.store.WellFormed → Path.IsCanonical source)
    (htarget : session.store.WellFormed → Path.IsCanonical target)
    (hroot : session.store.WellFormed → source ≠ Path.root) {operation : Operation}
    (hpaths : operation.paths = [source, destination session.store source target]) :
    session.Edits { session with store := (session.store.perform operation).1 } := by
  refine .perform session operation fun hwell path hpath => ?_
  rw [hpaths] at hpath
  simp only [List.mem_cons, List.not_mem_nil, or_false] at hpath
  rcases hpath with rfl | rfl
  · exact hsource hwell
  · exact isCanonical_destination (hsource hwell) (htarget hwell) (hroot hwell) session.store

/-- For the root the destination in a directory is within the root all the same. -/
theorem isWithin_destination_root {target : String} (htarget : Path.IsCanonical target)
    (store : Store) : Path.isWithin (destination store Path.root target) Path.root = true := by
  have hstart := Path.isWithin_root_iff.1 (Path.isWithin_root htarget)
  unfold destination
  split
  · have hname : Path.name Path.root = "" := by decide
    rw [hname, Path.child]
    split
    · decide
    · rw [Path.isWithin_root_iff, Text.startsWith_iff]
      simpa using (Text.startsWith_iff.1 hstart).trans (List.prefix_append target.toList ['/'])
  · exact Path.isWithin_root htarget

theorem edits_cp (s : Surroundings) (session : Session) (args : List String) :
    session.Edits (cp s session args).1 := by
  simp only [cp]
  split
  · exact .refl session
  next sourceArg targetArg hargs =>
    have hresolve (hwell : session.store.WellFormed) (arg : String) :=
      Session.isCanonical_resolve_of_wellFormed hwell s.settings arg
    split_ifs with hdir hflag hinto hfile hsame
    · exact .refl session
    · exact .refl session
    · rw [session_afterAttempt]
      refine @edits_destination _ _ _ (fun h => hresolve h _) (fun h => hresolve h _)
        (fun hwell hroot => hinto ?_) (.copyDirectory _ _) rfl
      rw [hroot]
      exact isWithin_destination_root (hresolve hwell _) session.store
    · exact .refl session
    · exact .refl session
    · rw [session_afterAttempt]
      refine @edits_destination _ _ _ (fun h => hresolve h _) (fun h => hresolve h _)
        (fun hwell hroot => hdir ?_) (.copyFile _ _) rfl
      rw [hroot]
      exact Store.isDirectory_iff.2 hwell.root_mem

theorem edits_mv (s : Surroundings) (session : Session) (args : List String) :
    session.Edits (mv s session args).1 := by
  simp only [mv]
  split
  · exact .refl session
  next sourceArg targetArg hargs =>
    have hresolve (hwell : session.store.WellFormed) (arg : String) :=
      Session.isCanonical_resolve_of_wellFormed hwell s.settings arg
    split_ifs with hmissing hsame hdir hinto
    · exact .refl session
    · exact .refl session
    · exact .refl session
    · rw [session_afterAttempt]
      refine @edits_destination _ _ _ (fun h => hresolve h _) (fun h => hresolve h _)
        (fun _ hroot => hinto ?_) (.moveDirectory _ _) rfl
      simp [hroot]
    · rw [session_afterAttempt]
      refine @edits_destination _ _ _ (fun h => hresolve h _) (fun h => hresolve h _)
        (fun hwell hroot => hdir ?_) (.moveFile _ _) rfl
      rw [hroot]
      exact Store.isDirectory_iff.2 hwell.root_mem

end Builtin
end EditorShell

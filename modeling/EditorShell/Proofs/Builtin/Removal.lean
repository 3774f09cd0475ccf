import EditorShell.Proofs.Shell.Run
import EditorShell.Proofs.Store.Cwd
import EditorShell.Proofs.Store.Deletion

/-!
# What `rm` removes

`rm` goes through its operands from left to right, and each of them is resolved at its turn, in the
session that the operands before it have left. An operand takes away what lies within the path that
it denotes then, and nothing else (`loses_rmOne`), and so does a run (`loses_rmAll`). If the working
directory is among what is taken away, the nearest directory above it that is left takes its place
(`staysNear_turn`), and a relative operand that follows denotes another path than it did when the
command started. As long as no operand but the last takes the working directory away, this does not
happen, and what is removed is what the operands denote at the start (`resolve_turn`).
-/

namespace EditorShell

namespace Builtin

variable {settings : Settings} {mode : RemovalMode} {progress after : Progress}
  {session : Session} {arg c : String} {args : List String}

/-- How `rm` is asked to remove by its flags. -/
def removalMode (args : List String) : RemovalMode where
  recursive := (flags args).any fun f => f == "r" || f == "R" || f == "recursive"
  force := (flags args).any fun f => f == "f" || f == "force"

/-- Whatever `rm` says, it goes through its operands. -/
theorem session_rm (s : Surroundings) (session : Session) (args : List String) :
    (rm s session args).1 =
      (rmAll s.settings (removalMode args) ⟨session, []⟩ (operands args)).1 := by
  simp only [rm]
  split_ifs with hnone
  · rw [List.isEmpty_iff.1 hnone]
    rfl
  · rw [List.isEmpty_iff.1 hnone]
    rfl
  · rfl

/-! ## Turns -/

/-- The session that is left when `rm` has gone through the operands `seen`. -/
def turn (settings : Settings) (mode : RemovalMode) (progress : Progress) (seen : List String) :
    Session :=
  (rmAll settings mode progress seen).1

theorem turn_cons (hok : rmOne settings mode progress arg = .ok after) :
    turn settings mode progress (arg :: args) = turn settings mode after args := by
  rw [turn, rmAll, hok, turn]

/-- The path lies within what one of the operands denotes at its turn. -/
def DenotedInTurn (settings : Settings) (mode : RemovalMode) (progress : Progress)
    (args : List String) (path : String) : Prop :=
  ∃ seen o later, args = seen ++ o :: later ∧
    Path.isWithin path ((turn settings mode progress seen).resolve settings o) = true

theorem DenotedInTurn.cons {path : String} (hok : rmOne settings mode progress arg = .ok after)
    (h : DenotedInTurn settings mode after args path) :
    DenotedInTurn settings mode progress (arg :: args) path := by
  obtain ⟨seen, o, later, rfl, hin⟩ := h
  exact ⟨arg :: seen, o, later, rfl, by rwa [turn_cons hok]⟩

/-- **An operand takes away nothing outside the path that it denotes.** -/
theorem loses_rmOne (hok : rmOne settings mode progress arg = .ok after) :
    progress.session.store.Loses
      (Path.isWithin · (progress.session.resolve settings arg) = true) after.session.store := by
  obtain hsame | ⟨-, operation, rfl | rfl, hsession⟩ := session_rmOne hok
  · rw [hsame]
    exact .refl _ _
  · rw [hsession]
    exact Store.attempt_of (.refl _ _) fun _ => Store.loses_deleteFile
  · rw [hsession]
    exact Store.attempt_of (.refl _ _) fun _ => Store.loses_deleteDirectory

/-- **A run takes away nothing outside the paths that the operands denote at their turns.** -/
theorem loses_rmAll (progress : Progress) (args : List String) :
    progress.session.store.Loses (DenotedInTurn settings mode progress args)
      (turn settings mode progress args).store := by
  induction args generalizing progress with
  | nil => exact .refl _ _
  | cons arg args ih =>
    cases hone : rmOne settings mode progress arg with
    | error error =>
      rw [turn, rmAll, hone]
      exact .refl _ _
    | ok after =>
      rw [turn_cons hone]
      have hfirst : progress.session.store.Loses
          (DenotedInTurn settings mode progress (arg :: args)) after.session.store :=
        (loses_rmOne hone).mono fun p hp => ⟨[], arg, args, rfl, hp⟩
      exact hfirst.trans ((ih after).mono fun _ => .cons hone)

/-! ## The working directory -/

theorem staysNear_rmOne (hwell : progress.session.store.WellFormed)
    (hnear : progress.session.store.StaysNear c) (hc : Path.IsCanonical c)
    (hok : rmOne settings mode progress arg = .ok after) : after.session.store.StaysNear c := by
  obtain hsame | ⟨-, operation, rfl | rfl, hsession⟩ := session_rmOne hok
  · rwa [hsame]
  · rw [hsession]
    refine Store.attempt_of hnear fun done hdone => ?_
    obtain ⟨-, rfl⟩ := Store.deleteFile_eq_ok_iff.1 hdone
    exact ⟨hnear.mem, hnear.holds, hnear.lowest⟩
  · rw [hsession]
    exact Store.attempt_of hnear fun _ => hnear.deleteDirectory hwell hc

/-- **The working directory is at each turn the lowest one left** that the first working directory
lies within. -/
theorem staysNear_turn (hwell : progress.session.store.WellFormed)
    (hnear : progress.session.store.StaysNear c) (hc : Path.IsCanonical c) (seen : List String) :
    (turn settings mode progress seen).store.StaysNear c := by
  induction seen generalizing progress with
  | nil => exact hnear
  | cons arg seen ih =>
    cases hone : rmOne settings mode progress arg with
    | error error =>
      rw [turn, rmAll, hone]
      exact hnear
    | ok after =>
      rw [turn_cons hone]
      exact ih ((edits_rmOne hone).store.wellFormed hwell) (staysNear_rmOne hwell hnear hc hone)

/-- The operand does not take the working directory away: the path that it denotes is not at or
above it, or is the root. -/
def SparesCwd (settings : Settings) (session : Session) (arg : String) : Prop :=
  Path.isWithin session.store.cwd (session.resolve settings arg) = true →
    session.resolve settings arg = Path.root

theorem cwd_rmOne (hspares : SparesCwd settings progress.session arg)
    (hok : rmOne settings mode progress arg = .ok after) :
    after.session.store.cwd = progress.session.store.cwd := by
  obtain hsame | ⟨hroot, operation, rfl | rfl, hsession⟩ := session_rmOne hok
  · rw [hsame]
  · rw [hsession]
    exact Store.cwd_perform id
  · rw [hsession]
    refine Store.cwd_attempt fun done hdone => ?_
    obtain ⟨-, rfl⟩ := Store.deleteDirectory_eq_ok_iff.1 hdone
    exact if_neg fun hin => hroot (hspares hin)

/-- **Operands keep their meaning** as long as those before them spare the working directory. -/
theorem resolve_turn {seen : List String}
    (hspared : ∀ o ∈ seen, SparesCwd settings progress.session o) :
    (turn settings mode progress seen).resolve settings = progress.session.resolve settings := by
  induction seen generalizing progress with
  | nil => rfl
  | cons arg seen ih =>
    cases hone : rmOne settings mode progress arg with
    | error error => rw [turn, rmAll, hone]
    | ok after =>
      obtain ⟨hfirst, hrest⟩ := List.forall_mem_cons.1 hspared
      have hcwd := cwd_rmOne hfirst hone
      have hresolve : after.session.resolve settings = progress.session.resolve settings := by
        funext path
        rw [(edits_rmOne hone).rest]
        simp only [Session.resolve, Session.expandHome, Session.home, hcwd]
      have hlater : ∀ o ∈ seen, SparesCwd settings after.session o := by
        simpa only [SparesCwd, hresolve, hcwd] using hrest
      rw [turn_cons hone, ih hlater, hresolve]

/-! ## The command -/

/-- **`rm` removes what its operands denote at their turns.** Every directory and file that it
removes is at or under the path that some operand denotes in the session which the operands before it
have left, and every other keeps its entry. That session differs in its working directory: it is the
lowest directory left that the first working directory lies within. So if no operand but the last
takes the working directory away, what is removed is at or under the paths that the operands denote
when the command starts. -/
theorem rm_loses (h : session.store.WellFormed) (s : Surroundings) (args : List String) :
    session.store.Loses
      (DenotedInTurn s.settings (removalMode args) ⟨session, []⟩ (operands args))
      (rm s session args).1.store ∧
    (∀ seen, (turn s.settings (removalMode args) ⟨session, []⟩ seen).store.StaysNear
      session.store.cwd) ∧
    ((∀ o ∈ (operands args).dropLast, SparesCwd s.settings session o) →
      session.store.Loses
        (fun p => ∃ o ∈ operands args,
          Path.isWithin p (session.resolve s.settings o) = true)
        (rm s session args).1.store) := by
  have hloses : session.store.Loses
      (DenotedInTurn s.settings (removalMode args) ⟨session, []⟩ (operands args))
      (rm s session args).1.store := by
    rw [session_rm]
    exact loses_rmAll ⟨session, []⟩ (operands args)
  refine ⟨hloses, fun seen => ?_, fun hspared => hloses.mono ?_⟩
  · exact staysNear_turn h h.staysNear_cwd h.isCanonical_cwd seen
  · rintro p ⟨seen, o, later, hsplit, hin⟩
    have hseen : ∀ x ∈ seen, x ∈ (operands args).dropLast := fun x hx => by
      rw [hsplit, List.dropLast_append_of_ne_nil (by simp)]
      exact List.mem_append_left _ hx
    rw [resolve_turn fun x hx => hspared x (hseen x hx)] at hin
    exact ⟨o, by simp [hsplit], hin⟩

/-- A session in `/a/b`, with a file `/a/x` beside the working directory. -/
def enteringB : List Request :=
  [.start [.branch ⟨"1", "a", .folder, none, none⟩
      [.leaf ⟨"2", "b", .folder, none, none⟩, .leaf ⟨"3", "x", .file, some "y", none⟩]],
    .execute "cd /a/b"]

/-- What `rm` is told in the examples. -/
def plainly : Surroundings := ⟨.default, "rm", .empty, ⟨2024, 1, 2⟩⟩

theorem rm_loses_beside :
    ∃ session,
      ((Shell.create .default [] ⟨2024, 1, 2⟩).handleAll enteringB).session = some session ∧
      session.store.WellFormed ∧
      (∀ o ∈ (operands ["-r", "../x", "/a/b"]).dropLast, SparesCwd .default session o) ∧
      session.store.Loses
        (fun p => ∃ o ∈ operands ["-r", "../x", "/a/b"],
          Path.isWithin p (session.resolve .default o) = true)
        (rm plainly session ["-r", "../x", "/a/b"]).1.store := by
  obtain ⟨session, hsession⟩ : ∃ session,
      ((Shell.create .default [] ⟨2024, 1, 2⟩).handleAll enteringB).session = some session :=
    Option.isSome_iff_exists.1 (by decide +kernel)
  have hsafe : ∀ request ∈ enteringB, request.IsSafe := by
    simp [enteringB, Request.IsSafe]
  have hwell := (Shell.wellFormed_of_handleAll .default [] ⟨2024, 1, 2⟩ enteringB hsafe session
    hsession).1
  have hplaces :
      ((Shell.create .default [] ⟨2024, 1, 2⟩).handleAll enteringB).session.map
        (fun session => (session.store.cwd, session.resolve .default "../x")) =
      some ("/a/b", "/a/x") := by
    decide +kernel
  rw [hsession, Option.map_some, Option.some.injEq, Prod.mk.injEq] at hplaces
  have hspared : ∀ o ∈ (operands ["-r", "../x", "/a/b"]).dropLast,
      SparesCwd .default session o := by
    have hfirst : (operands ["-r", "../x", "/a/b"]).dropLast = ["../x"] := by decide
    rw [hfirst]
    simp only [List.mem_singleton, forall_eq, SparesCwd, hplaces]
    decide
  exact ⟨session, hsession, hwell, hspared, (rm_loses hwell plainly _).2.2 hspared⟩

/-- **What is removed is not always what the operands denote at the start:** after the first operand
has taken the working directory away, the second one denotes a file above it. -/
theorem not_loses_of_cwd_removed :
    ¬∀ (settings : Settings) (allowed : List String) (today : Date) (requests : List Request)
      (session : Session),
      (∀ request ∈ requests, request.IsSafe) →
      ((Shell.create settings allowed today).handleAll requests).session = some session →
        ∀ (s : Surroundings) (args : List String), session.store.Loses
          (fun p => ∃ o ∈ operands args, Path.isWithin p (session.resolve s.settings o) = true)
          (rm s session args).1.store := by
  intro h
  obtain ⟨session, hsession⟩ : ∃ session,
      ((Shell.create .default [] ⟨2024, 1, 2⟩).handleAll enteringB).session = some session :=
    Option.isSome_iff_exists.1 (by decide +kernel)
  have hloses := h .default [] ⟨2024, 1, 2⟩ enteringB session
    (by simp [enteringB, Request.IsSafe]) hsession plainly ["-r", "/a/b", "x"]
  have hplaces :
      ((Shell.create .default [] ⟨2024, 1, 2⟩).handleAll enteringB).session.map
        (fun session => ((operands ["-r", "/a/b", "x"]).map (session.resolve .default),
          session.store.files.get? "/a/x",
          (rm plainly session ["-r", "/a/b", "x"]).1.store.files.get? "/a/x")) =
      some (["/a/b", "/a/b/x"], some ⟨"y", none, some "3"⟩, none) := by
    decide +kernel
  rw [hsession, Option.map_some, Option.some.injEq, Prod.mk.injEq, Prod.mk.injEq] at hplaces
  obtain ⟨hdenoted, hthere, hremoved⟩ := hplaces
  have hspared := hloses.get?_of_spared "/a/x" ?_
  · rw [hremoved, hthere] at hspared
    cases hspared
  · rintro ⟨o, ho, hin⟩
    have hmem : session.resolve .default o ∈ ["/a/b", "/a/b/x"] :=
      hdenoted ▸ List.mem_map_of_mem ho
    have houtside : ∀ d ∈ ["/a/b", "/a/b/x"], Path.isWithin "/a/x" d = false := by decide
    have hout := houtside _ hmem
    rw [show Path.isWithin "/a/x" (session.resolve .default o) = true from hin] at hout
    cases hout

end Builtin
end EditorShell

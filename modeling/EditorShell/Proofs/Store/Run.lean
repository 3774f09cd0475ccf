import EditorShell.Proofs.Store.Relocation
import EditorShell.Store.Operation

/-!
# Runs of operations

What one operation keeps, a run keeps. Two facts about a single operation carry everything that is
said about runs here: on canonical paths it keeps the store well formed (`WellFormed.perform`), and
on any paths and any store it raises the counter if it changes a directory or a file
(`grown_perform`).

The commands of a shell name paths that are canonical as long as the store is well formed. `Edits`
is the relation between the stores before and after such a run.
-/

namespace EditorShell

/-- The paths that an operation names. -/
def Operation.paths : Operation → List String
  | .changeDirectory path => [path]
  | .createDirectory path _ => [path]
  | .writeFile path _ _ _ => [path]
  | .touch path => [path]
  | .deleteFile path => [path]
  | .deleteDirectory path _ => [path]
  | .copyFile source target => [source, target]
  | .moveFile source target => [source, target]
  | .copyDirectory source target => [source, target]
  | .moveDirectory source target => [source, target]
  | .clear => []

/-- The operation names canonical paths only. -/
def Operation.IsCanonical (operation : Operation) : Prop :=
  ∀ path ∈ operation.paths, Path.IsCanonical path

namespace Store

variable {store middle done : Store}

/-- Carries out operations in order, whether they succeed or not. -/
def performAll (store : Store) (operations : List Operation) : Store :=
  operations.foldl (fun store operation => (store.perform operation).1) store

/-! ## Well-formed stores -/

namespace WellFormed

theorem attempt (h : WellFormed store) {result : Except StoreError Store}
    (hok : ∀ done, result = .ok done → WellFormed done) : WellFormed (store.attempt result).1 :=
  attempt_of (P := WellFormed) h hok

/-- **An operation on canonical paths keeps the store well formed,** whether it succeeds or not. -/
theorem perform (h : WellFormed store) {operation : Operation} (hop : operation.IsCanonical) :
    WellFormed (store.perform operation).1 := by
  cases operation with
  | changeDirectory path => exact h.attempt fun _ => h.changeDirectory
  | createDirectory path parents =>
    exact h.attempt fun _ => h.createDirectory (hop path (by simp [Operation.paths]))
  | writeFile path content append mimeType =>
    exact h.attempt fun _ => h.writeFile (hop path (by simp [Operation.paths]))
  | touch path => exact h.attempt fun _ => h.touch (hop path (by simp [Operation.paths]))
  | deleteFile path => exact h.attempt fun _ => h.deleteFile
  | deleteDirectory path recursive => exact h.attempt fun _ => h.deleteDirectory
  | copyFile source target =>
    exact h.attempt fun _ => h.copyFile (hop target (by simp [Operation.paths]))
  | moveFile source target => exact h.moveFile (hop target (by simp [Operation.paths]))
  | copyDirectory source target => exact h.copyDirectory (hop target (by simp [Operation.paths]))
  | moveDirectory source target => exact h.moveDirectory (hop target (by simp [Operation.paths]))
  | clear => exact clear store

end WellFormed

/-! ## The counter -/

/-- The counter has not fallen, and it tells whether a directory or a file has changed. -/
structure Grown (store done : Store) : Prop where
  revision_le : store.revision ≤ done.revision
  unchanged : done.revision = store.revision →
    done.directories = store.directories ∧ done.files = store.files

namespace Grown

theorem refl (store : Store) : Grown store store := ⟨le_rfl, fun _ => ⟨rfl, rfl⟩⟩

theorem trans (h : Grown store middle) (h' : Grown middle done) : Grown store done := by
  have hle := h.revision_le
  have hle' := h'.revision_le
  refine ⟨by omega, fun heq => ?_⟩
  obtain ⟨hdirs, hfiles⟩ := h.unchanged (by omega)
  obtain ⟨hdirs', hfiles'⟩ := h'.unchanged (by omega)
  exact ⟨hdirs'.trans hdirs, hfiles'.trans hfiles⟩

theorem of_lt (h : store.revision < done.revision) : Grown store done :=
  ⟨by omega, fun heq => by omega⟩

theorem attempt {result : Except StoreError Store}
    (hok : ∀ done, result = .ok done → Grown store done) :
    Grown store (store.attempt result).1 :=
  attempt_of (P := Grown store) (refl store) hok

end Grown

theorem grown_createDirectory {path : String} {parents : Bool}
    (h : store.createDirectory path parents = .ok done) : Grown store done := by
  obtain ⟨-, ⟨-, rfl⟩ | ⟨-, -, rfl⟩⟩ := createDirectory_eq_ok h
  · exact .refl done
  · exact .of_lt (by simp)

theorem grown_writeFile {path content : String} {append : Bool} {mimeType : Option String}
    (h : store.writeFile path content append mimeType = .ok done) : Grown store done := by
  obtain ⟨-, rfl⟩ := writeFile_eq_ok_iff.1 h
  exact .of_lt (Nat.lt_succ_self _)

theorem grown_touch {path : String} (h : store.touch path = .ok done) : Grown store done := by
  unfold touch at h
  split_ifs at h
  · cases h
    exact .refl store
  · exact grown_writeFile h

theorem grown_deleteFile {path : String} (h : store.deleteFile path = .ok done) :
    Grown store done := by
  obtain ⟨-, rfl⟩ := deleteFile_eq_ok_iff.1 h
  exact .of_lt (Nat.lt_succ_self _)

theorem grown_deleteDirectory {path : String} {recursive : Bool}
    (h : store.deleteDirectory path recursive = .ok done) : Grown store done := by
  obtain ⟨-, rfl⟩ := deleteDirectory_eq_ok_iff.1 h
  refine .of_lt ?_
  simp only [without]
  omega

theorem grown_copyFile {source target : String} (h : store.copyFile source target = .ok done) :
    Grown store done := by
  obtain ⟨file, -, h⟩ := copyFile_eq_ok_iff.1 h
  split_ifs at h
  · exact h ▸ .refl store
  · exact grown_writeFile h

@[simp] theorem revision_carryNodeId (store : Store) (source target : String) :
    (store.carryNodeId source target).revision = store.revision := by
  obtain heq | ⟨nodeId, heq⟩ := carryNodeId_eq store source target <;> simp [heq]

theorem grown_moveFile (store : Store) (source target : String) :
    Grown store (store.moveFile source target).1 := by
  unfold moveFile
  split
  · exact .refl store
  next copied hcopied =>
    split_ifs with hsame
    · exact grown_copyFile hcopied
    · -- the copy has counted already, so the identity that is set afterwards shows as well
      obtain ⟨file, -, hwrite⟩ := copyFile_eq_ok_iff.1 hcopied
      rw [if_neg hsame] at hwrite
      obtain ⟨-, rfl⟩ := writeFile_eq_ok_iff.1 hwrite
      refine .trans (.of_lt ?_) (.attempt fun _ => grown_deleteFile)
      simp

theorem revision_le_copyFiles (place : String → String) (carryIds : Bool) (paths : List String)
    (store : Store) : store.revision ≤ (copyFiles place carryIds paths store).1.revision := by
  induction paths generalizing store with
  | nil => exact le_rfl
  | cons path paths ih =>
    unfold copyFiles
    split
    · exact le_rfl
    next copied hcopied =>
      refine (grown_copyFile hcopied).revision_le.trans (le_trans ?_ (ih _))
      split_ifs <;> simp

/-- A copy of a directory counts at least the directory itself. -/
theorem revision_lt_copySubtree {source : String} (hsource : source ∈ store.directories)
    (target : String) (carryIds : Bool) :
    store.revision < (store.copySubtree source target carryIds).1.revision := by
  refine lt_of_lt_of_le ?_ (revision_le_copyFiles _ _ _ _)
  have hmem : source ∈ store.subtreeDirectories source :=
    mem_subtreeDirectories.2 ⟨hsource, Path.isWithin_self source⟩
  have hpos := List.length_pos_of_mem hmem
  rw [subtreeDirectories] at hpos
  simp only [revision_addDirectories, List.length_map]
  omega

theorem grown_copyDirectory (store : Store) (source target : String) :
    Grown store (store.copyDirectory source target).1 := by
  unfold copyDirectory
  split
  · exact .refl store
  next hnone =>
    exact .of_lt (revision_lt_copySubtree (relocationError?_eq_none_iff.1 hnone).source_mem ..)

theorem grown_moveDirectory (store : Store) (source target : String) :
    Grown store (store.moveDirectory source target).1 := by
  cases herror : store.relocationError? source target with
  | some error =>
    simp only [moveDirectory, herror]
    exact .refl store
  | none =>
    have hlt :=
      revision_lt_copySubtree (relocationError?_eq_none_iff.1 herror).source_mem target true
    simp only [moveDirectory, herror]
    split
    next copied error hcopy => exact .of_lt (by rwa [hcopy] at hlt)
    next copied hcopy =>
      rw [hcopy] at hlt
      refine .trans (.of_lt hlt) ?_
      split
      · exact .refl copied
      next removed hremoved =>
        have hgrown := grown_deleteDirectory hremoved
        split_ifs
        · exact ⟨hgrown.revision_le, hgrown.unchanged⟩
        · exact hgrown

/-- **Every change of a directory or a file is counted,** on any store and whether the operation
succeeds or stops half-way. -/
theorem grown_perform (store : Store) (operation : Operation) :
    Grown store (store.perform operation).1 := by
  cases operation with
  | changeDirectory path =>
    refine .attempt fun done hok => ?_
    obtain ⟨-, rfl⟩ := changeDirectory_eq_ok_iff.1 hok
    exact ⟨le_rfl, fun _ => ⟨rfl, rfl⟩⟩
  | createDirectory path parents => exact .attempt fun _ => grown_createDirectory
  | writeFile path content append mimeType => exact .attempt fun _ => grown_writeFile
  | touch path => exact .attempt fun _ => grown_touch
  | deleteFile path => exact .attempt fun _ => grown_deleteFile
  | deleteDirectory path recursive => exact .attempt fun _ => grown_deleteDirectory
  | copyFile source target => exact .attempt fun _ => grown_copyFile
  | moveFile source target => exact grown_moveFile store source target
  | copyDirectory source target => exact grown_copyDirectory store source target
  | moveDirectory source target => exact grown_moveDirectory store source target
  | clear => exact .of_lt (Nat.lt_succ_self _)

theorem grown_performAll (store : Store) (operations : List Operation) :
    Grown store (store.performAll operations) := by
  induction operations generalizing store with
  | nil => exact .refl store
  | cons operation operations ih => exact (grown_perform store operation).trans (ih _)

/-! ## Runs by commands -/

/-- `done` comes from `store` by operations whose paths are canonical whenever the store is well
formed at the time. -/
inductive Edits (store : Store) : Store → Prop where
  | refl : Edits store store
  | perform {middle : Store} (operation : Operation) : Edits store middle →
    (WellFormed middle → operation.IsCanonical) → Edits store (middle.perform operation).1

namespace Edits

theorem single (operation : Operation) (hop : WellFormed store → operation.IsCanonical) :
    Edits store (store.perform operation).1 :=
  .perform operation .refl hop

theorem trans (h : Edits store middle) (h' : Edits middle done) : Edits store done := by
  induction h' with
  | refl => exact h
  | perform operation _ hop ih => exact ih.perform operation hop

theorem exists_performAll (h : Edits store done) :
    ∃ operations, done = store.performAll operations := by
  induction h with
  | refl => exact ⟨[], rfl⟩
  | perform operation _ _ ih =>
    obtain ⟨operations, rfl⟩ := ih
    exact ⟨operations ++ [operation], by simp [performAll]⟩

theorem wellFormed (h : Edits store done) (hwell : WellFormed store) : WellFormed done := by
  induction h with
  | refl => exact hwell
  | perform operation _ hop ih => exact ih.perform (hop ih)

end Edits
end Store
end EditorShell

import EditorShell.Proofs.Store.Run

/-!
# Operations that leave the working directory

The working directory is kept in the store, but most operations on the store leave it alone, whether
they succeed or not (`cwd_perform`).
-/

namespace EditorShell

/-- The operation can make another directory the working directory. -/
def Operation.MovesCwd : Operation → Prop
  | .changeDirectory _ | .deleteDirectory _ _ | .moveDirectory _ _ | .clear => True
  | _ => False

namespace Store

variable {store done : Store} {path source target : String}

theorem cwd_attempt {result : Except StoreError Store}
    (hok : ∀ done, result = .ok done → done.cwd = store.cwd) :
    (store.attempt result).1.cwd = store.cwd :=
  attempt_of (P := fun done => done.cwd = store.cwd) rfl hok

theorem cwd_createDirectory {parents : Bool} (h : store.createDirectory path parents = .ok done) :
    done.cwd = store.cwd := by
  obtain ⟨-, ⟨-, rfl⟩ | ⟨-, -, rfl⟩⟩ := createDirectory_eq_ok h
  · rfl
  · rw [cwd_addDirectories]

theorem cwd_writeFile {content : String} {append : Bool} {mimeType : Option String}
    (h : store.writeFile path content append mimeType = .ok done) : done.cwd = store.cwd := by
  obtain ⟨-, rfl⟩ := writeFile_eq_ok_iff.1 h
  rfl

theorem cwd_touch (h : store.touch path = .ok done) : done.cwd = store.cwd := by
  unfold touch at h
  split_ifs at h
  · cases h
    rfl
  · exact cwd_writeFile h

theorem cwd_deleteFile (h : store.deleteFile path = .ok done) : done.cwd = store.cwd := by
  obtain ⟨-, rfl⟩ := deleteFile_eq_ok_iff.1 h
  rfl

theorem cwd_copyFile (h : store.copyFile source target = .ok done) : done.cwd = store.cwd := by
  obtain ⟨file, -, hok⟩ := copyFile_eq_ok_iff.1 h
  split_ifs at hok
  · rw [hok]
  · exact cwd_writeFile hok

@[simp] theorem cwd_carryNodeId (store : Store) (source target : String) :
    (store.carryNodeId source target).cwd = store.cwd := by
  obtain heq | ⟨nodeId, heq⟩ := carryNodeId_eq store source target <;> simp [heq]

theorem cwd_moveFile (store : Store) (source target : String) :
    (store.moveFile source target).1.cwd = store.cwd := by
  unfold moveFile
  split
  · rfl
  next copied hcopied =>
    have hcopy := cwd_copyFile hcopied
    split_ifs
    · exact hcopy
    · rw [cwd_attempt fun _ => cwd_deleteFile, cwd_carryNodeId, hcopy]

theorem cwd_copyFiles (place : String → String) (carryIds : Bool) (paths : List String)
    (store : Store) : (copyFiles place carryIds paths store).1.cwd = store.cwd := by
  induction paths generalizing store with
  | nil => rfl
  | cons path paths ih =>
    unfold copyFiles
    split
    · rfl
    next copied hcopied =>
      rw [ih, ← cwd_copyFile hcopied]
      split_ifs
      · rw [cwd_carryNodeId]
      · rfl

theorem cwd_copyDirectory (store : Store) (source target : String) :
    (store.copyDirectory source target).1.cwd = store.cwd := by
  unfold copyDirectory copySubtree
  split
  · rfl
  · rw [cwd_copyFiles, cwd_addDirectories]

/-- An operation moves the working directory only if it is one of those that can. -/
theorem cwd_perform {operation : Operation} (hop : ¬operation.MovesCwd) :
    (store.perform operation).1.cwd = store.cwd := by
  cases operation with
  | changeDirectory path => exact absurd trivial hop
  | deleteDirectory path recursive => exact absurd trivial hop
  | moveDirectory source target => exact absurd trivial hop
  | clear => exact absurd trivial hop
  | createDirectory path parents => exact cwd_attempt fun _ => cwd_createDirectory
  | writeFile path content append mimeType => exact cwd_attempt fun _ => cwd_writeFile
  | touch path => exact cwd_attempt fun _ => cwd_touch
  | deleteFile path => exact cwd_attempt fun _ => cwd_deleteFile
  | copyFile source target => exact cwd_attempt fun _ => cwd_copyFile
  | moveFile source target => exact cwd_moveFile store source target
  | copyDirectory source target => exact cwd_copyDirectory store source target

end Store

end EditorShell

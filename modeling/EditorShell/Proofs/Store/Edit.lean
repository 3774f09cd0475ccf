import EditorShell.Store.Operation
import Mathlib.Data.List.Nodup
import Mathlib.Tactic.SplitIfs

/-!
# When an operation succeeds, and what it leaves

For each operation on one path there is one equivalence: it answers with a store exactly if nothing
stands in its way, and then with this store. What proofs about the store need of an operation they
take from here, and from what each change of the table of files does to its keys.
-/

namespace EditorShell
namespace Store

variable {store done : Store} {path target : String}

@[simp] theorem isDirectory_eq_false_iff :
    store.isDirectory path = false ↔ path ∉ store.directories := by
  rw [← isDirectory_iff, Bool.not_eq_true]

@[simp] theorem isFile_eq_false_iff : store.isFile path = false ↔ path ∉ store.files.keys := by
  rw [← isFile_iff, Bool.not_eq_true]

/-- Two stores that cannot be told apart: neither the order of the directories nor that of the files
is looked at. -/
structure Same (store other : Store) : Prop where
  mem_directories_iff : ∀ d, d ∈ store.directories ↔ d ∈ other.directories
  get?_eq : ∀ p, store.files.get? p = other.files.get? p
  cwd_eq : store.cwd = other.cwd
  revision_eq : store.revision = other.revision

/-! ## The table of files -/

@[simp] theorem mem_keys_writeIn {files : Table File} {content other : String} {append : Bool}
    {mimeType : Option String} :
    other ∈ (writeIn files path content append mimeType).keys ↔
      other ∈ files.keys ∨ other = path := by
  unfold writeIn
  split <;> simp

@[simp] theorem mem_keys_filesOutside {files : Table File} {other : String} :
    other ∈ (filesOutside files path).keys ↔
      other ∈ files.keys ∧ Path.isBelow other path = false := by
  simp [filesOutside, Table.keys]

@[simp] theorem get?_filesOutside (files : Table File) (path other : String) :
    (filesOutside files path).get? other =
      if Path.isBelow other path then none else files.get? other := by
  rw [Table.get?, filesOutside, Table.lookup_filter (fun p => !Path.isBelow p path)]
  cases Path.isBelow other path <;> rfl

theorem get?_setNodeId (store : Store) (path : String) (nodeId : Option String) (other : String) :
    (store.setNodeId path nodeId).files.get? other =
      if other = path then (store.files.get? path).map fun file => { file with nodeId := nodeId }
      else store.files.get? other := by
  unfold setNodeId
  cases h : store.files.get? path with
  | none =>
    by_cases he : other = path
    · simp [he, h]
    · simp [he]
  | some file => simp

@[simp] theorem mem_keys_setNodeId {nodeId : Option String} {other : String} :
    other ∈ (store.setNodeId path nodeId).files.keys ↔ other ∈ store.files.keys := by
  rw [← Table.get?_isSome_iff, ← Table.get?_isSome_iff, get?_setNodeId]
  split_ifs with h
  · simp [h]
  · rfl

@[simp] theorem directories_setNodeId (store : Store) (path : String) (nodeId : Option String) :
    (store.setNodeId path nodeId).directories = store.directories := by
  unfold setNodeId
  split <;> rfl

@[simp] theorem cwd_setNodeId (store : Store) (path : String) (nodeId : Option String) :
    (store.setNodeId path nodeId).cwd = store.cwd := by
  unfold setNodeId
  split <;> rfl

@[simp] theorem revision_setNodeId (store : Store) (path : String) (nodeId : Option String) :
    (store.setNodeId path nodeId).revision = store.revision := by
  unfold setNodeId
  split <;> rfl

/-- Carrying an identity is setting one, unless there is no source. -/
theorem carryNodeId_eq (store : Store) (source target : String) :
    store.carryNodeId source target = store ∨
      ∃ nodeId, store.carryNodeId source target = store.setNodeId target nodeId := by
  unfold carryNodeId
  split
  next file _ => exact .inr ⟨file.nodeId, rfl⟩
  · exact .inl rfl

@[simp] theorem cwd_addDirectories (store : Store) (paths : List String) :
    (store.addDirectories paths).cwd = store.cwd := by
  induction paths generalizing store with
  | nil => rfl
  | cons path paths ih => rw [addDirectories_cons, ih]; rfl

theorem nodup_addDirectories {paths : List String} (h : store.directories.Nodup) :
    (store.addDirectories paths).directories.Nodup := by
  induction paths generalizing store with
  | nil => exact h
  | cons path paths ih => exact ih (List.Nodup.insert h)

/-! ## Operations on one path -/

/-- What holds of a store, and of what the success of an operation leaves, holds after the operation
whether it succeeds or not. -/
theorem attempt_of {P : Store → Prop} {result : Except StoreError Store} (h : P store)
    (hok : ∀ done, result = .ok done → P done) : P (store.attempt result).1 := by
  cases result with
  | error error => exact h
  | ok done => exact hok done rfl

/-- A check that is passed. -/
theorem ite_error_eq_ok_iff {c : Prop} [Decidable c] {error : StoreError}
    {rest : Except StoreError Store} :
    (if c then .error error else rest) = .ok done ↔ ¬c ∧ rest = .ok done := by
  split_ifs with h <;> simp [h]

theorem changeDirectory_eq_ok_iff :
    store.changeDirectory path = .ok done ↔
      path ∈ store.directories ∧ { store with cwd := path } = done := by
  unfold changeDirectory
  split_ifs with h <;> simp_all

theorem writeFile_eq_ok_iff {content : String} {append : Bool} {mimeType : Option String} :
    store.writeFile path content append mimeType = .ok done ↔
      (path ≠ Path.root ∧ path ∉ store.directories ∧ Path.parent path ∈ store.directories) ∧
        { store with
          files := writeIn store.files path content append mimeType
          revision := store.revision + 1 } = done := by
  rw [writeFile, ite_error_eq_ok_iff, ite_error_eq_ok_iff, Except.ok.injEq]
  simp [and_assoc]

theorem deleteFile_eq_ok_iff :
    store.deleteFile path = .ok done ↔
      (path ∉ store.directories ∧ path ∈ store.files.keys) ∧
        { store with files := store.files.erase path, revision := store.revision + 1 } = done := by
  rw [deleteFile, ite_error_eq_ok_iff, ite_error_eq_ok_iff, Except.ok.injEq]
  simp [and_assoc]

/-- The store without a directory and all that lies below it. -/
def without (store : Store) (path : String) : Store where
  directories := store.directories.filter (!Path.isWithin · path)
  files := filesOutside store.files path
  cwd := if Path.isWithin store.cwd path then Path.parent path else store.cwd
  revision := store.revision + (store.filesBelow path).length +
    (store.directoriesBelow path).length + 1

theorem deleteDirectory_eq_ok_iff {recursive : Bool} :
    store.deleteDirectory path recursive = .ok done ↔
      (path ≠ Path.root ∧ path ∉ store.files.keys ∧ path ∈ store.directories ∧
        (store.filesBelow path = [] ∧ store.directoriesBelow path = [] ∨ recursive = true)) ∧
        store.without path = done := by
  simp only [deleteDirectory, ite_error_eq_ok_iff, Except.ok.injEq, without]
  cases recursive <;> simp [and_assoc]

/-- A directory is created unless it is there, and with it, if asked, what is missing above it. -/
theorem createDirectory_eq_ok {parents : Bool}
    (h : store.createDirectory path parents = .ok done) :
    path ∉ store.files.keys ∧
      (path ∈ store.directories ∧ done = store ∨
        path ∉ store.directories ∧
          (∀ ancestor ∈ Path.ancestors path, ancestor ∉ store.directories →
            ancestor ∉ store.files.keys) ∧
          done = store.addDirectories
            ((Path.ancestors path).filter (!store.isDirectory ·) ++ [path])) := by
  rw [createDirectory, ite_error_eq_ok_iff] at h
  obtain ⟨hfile, h⟩ := h
  refine ⟨by simpa using hfile, ?_⟩
  split_ifs at h with hdir
  · exact .inl ⟨by simpa using hdir, (Except.ok.inj h).symm⟩
  · obtain ⟨-, h⟩ := ite_error_eq_ok_iff.1 h
    split at h
    · cases h
    next hnone =>
      refine .inr ⟨by simpa using hdir, fun ancestor hmem hnot => ?_, (Except.ok.inj h).symm⟩
      simpa using List.find?_eq_none.1 hnone ancestor (by simpa using ⟨hmem, hnot⟩)

theorem copyFile_eq_ok_iff {source : String} :
    store.copyFile source target = .ok done ↔
      ∃ file, store.files.get? source = some file ∧
        if target = source then store = done
        else store.writeFile target file.content false file.mimeType = .ok done := by
  unfold copyFile
  cases h : store.files.get? source with
  | none => simp
  | some file => split_ifs <;> simp_all

end Store
end EditorShell

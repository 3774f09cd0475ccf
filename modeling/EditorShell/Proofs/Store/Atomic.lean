import EditorShell.Proofs.Store.Run

/-!
# Operations that fail change nothing

On a well-formed store an operation either does all that it is for or leaves the store as it was
(`perform_atomic`). Most operations check first and change the store afterwards. Three go on
checking when they have begun to write: a file that is moved is copied and then removed, and a
directory that is copied or moved is copied file by file. What these leave is said by
`moveFile_eq` and by `Relocated`; that none of their later checks fails follows from the rules
that the store obeys, whatever the directory holds and wherever it goes.
-/

namespace EditorShell

/-- Copying a directory with all it holds, or moving it. -/
def Operation.relocation (move : Bool) (source target : String) : Operation :=
  if move then .moveDirectory source target else .copyDirectory source target

namespace Store

variable {store copied : Store} {source target : String}

/-- An operation that checks first has changed nothing if it fails. -/
theorem attempt_eq_of_error {result : Except StoreError Store} {error : StoreError}
    (h : (store.attempt result).2 = some error) : (store.attempt result).1 = store := by
  cases result with
  | error error => rfl
  | ok done => cases h

/-! ## Copying and moving a file -/

/-- A file as a copy of it stands where `old` was: it brings its text, and its type if it has one. -/
def overwritten (file : File) (old : Option File) : File where
  content := file.content
  mimeType := file.mimeType.or (old.bind (·.mimeType))
  nodeId := old.bind (·.nodeId)

/-- A file that is copied arrives at the target, beside the directories, and no other file
changes. -/
theorem copyFile_eq (hcopy : store.copyFile source target = .ok copied) (hne : target ≠ source) :
    ∃ file files, store.files.get? source = some file ∧
      copied = { store with files := files, revision := store.revision + 1 } ∧
      ∀ p, files.get? p =
        if p = target then some (overwritten file (store.files.get? target))
        else store.files.get? p := by
  obtain ⟨file, hfile, hwrite⟩ := copyFile_eq_ok_iff.1 hcopy
  rw [if_neg hne] at hwrite
  obtain ⟨-, rfl⟩ := writeFile_eq_ok_iff.1 hwrite
  refine ⟨file, _, hfile, rfl, fun p => ?_⟩
  rw [get?_writeIn]
  cases store.files.get? target <;> simp [overwritten, updated]

/-- **A file that can be copied can be moved.** It arrives with its identity, the source goes away,
and no other file changes. -/
theorem moveFile_eq (h : WellFormed store) (hcopy : store.copyFile source target = .ok copied)
    (hne : target ≠ source) :
    ∃ file files, store.files.get? source = some file ∧
      store.moveFile source target =
        ({ store with files := files, revision := store.revision + 2 }, none) ∧
      ∀ p, files.get? p =
        if p = source then none
        else if p = target then
          some { overwritten file (store.files.get? target) with nodeId := file.nodeId }
        else store.files.get? p := by
  obtain ⟨file, files, hfile, rfl, hget⟩ := copyFile_eq hcopy hne
  have hkey : source ∈ store.files.keys := Table.mem_keys_of_get? hfile
  -- the copy has left the source as it was, so its identity can be carried over
  have hcarry : carryNodeId { store with files := files, revision := store.revision + 1 } source
      target = setNodeId { store with files := files, revision := store.revision + 1 } target
        file.nodeId := by
    simp [carryNodeId, hget, hne.symm, hfile]
  generalize hcarried : setNodeId { store with files := files, revision := store.revision + 1 }
    target file.nodeId = carried at hcarry
  have hdelete : carried.deleteFile source = .ok
      { carried with files := carried.files.erase source, revision := carried.revision + 1 } := by
    refine deleteFile_eq_ok_iff.2 ⟨⟨?_, ?_⟩, rfl⟩
    · rw [← hcarried, directories_setNodeId]
      exact h.not_both source hkey
    · rw [← hcarried, mem_keys_setNodeId, ← Table.get?_isSome_iff, hget, if_neg hne.symm, hfile]
      rfl
  refine ⟨file, carried.files.erase source, hfile, ?_, fun p => ?_⟩
  · simp only [moveFile, hcopy, if_neg hne, hcarry, attempt, hdelete]
    simp [← hcarried]
  · rw [Table.get?_erase, ← hcarried, get?_setNodeId]
    by_cases hp : p = target <;> simp [hp, hget]

/-! ## Relocating a directory -/

/-- What a relocation leaves: within the target lives what lives at the same place within the
source, a move leaves nothing within the source and takes the working directory along, and
elsewhere nothing changes. -/
structure Relocated (store : Store) (source target : String) (move : Bool) (done : Store) :
    Prop where
  wellFormed : WellFormed done
  mem_directories_iff : ∀ d, d ∈ done.directories ↔
    (∃ e ∈ store.directories, Path.isWithin e source = true ∧ Path.moved source target e = d) ∨
      d ∈ store.directories ∧ (move = true → Path.isWithin d source = false)
  get?_eq : ∀ p, Path.IsCanonical p → done.files.get? p =
    if Path.isWithin p target then
      (store.files.get? (Path.moved target source p)).map (relocated move)
    else if move && Path.isWithin p source then none
    else store.files.get? p
  cwd_eq : done.cwd =
    if move && Path.isWithin store.cwd source then Path.moved source target store.cwd
    else store.cwd

section

variable (h : WellFormed store) (hr : store.Relocatable source target)
  (htarget : Path.IsCanonical target)
include h hr htarget

omit h hr htarget in
theorem IsCopy.mem_directories_iff {carryIds : Bool}
    (hc : store.IsCopy source target carryIds copied) {d : String} :
    d ∈ copied.directories ↔
      (∃ e ∈ store.directories, Path.isWithin e source = true ∧ Path.moved source target e = d) ∨
        d ∈ store.directories := by
  rw [hc.directories_eq, withTarget, mem_directories_addDirectories, List.mem_map]
  simp only [mem_subtreeDirectories, and_assoc]

theorem relocated_copyDirectory :
    ∃ done, store.copyDirectory source target = (done, none) ∧
      store.Relocated source target false done := by
  obtain ⟨copied, hcopy, hc⟩ := copySubtree_eq h hr htarget false
  refine ⟨copied, ?_, hc.wellFormed h hr htarget, ?_, ?_, ?_⟩
  · rw [copyDirectory, relocationError?_eq_none_iff.2 hr]
    exact hcopy
  · simp [hc.mem_directories_iff]
  · simpa using hc.get?_eq
  · simpa using hc.cwd_eq

theorem relocated_moveDirectory :
    ∃ done, store.moveDirectory source target = (done, none) ∧
      store.Relocated source target true done := by
  have hsource := hr.isCanonical_source h
  obtain ⟨copied, hc, hmove⟩ := moveDirectory_eq h hr htarget
  refine ⟨_, hmove, ?_, fun d => ?_, fun p hp => ?_, ?_⟩
  · have hwell : WellFormed (store.moveDirectory source target).1 := h.moveDirectory htarget
    rwa [hmove] at hwell
  · simp only [without, List.mem_filter, hc.mem_directories_iff, Bool.not_eq_true', true_imp_iff]
    constructor
    · rintro ⟨hd | hd, hout⟩
      · exact .inl hd
      · exact .inr ⟨hd, hout⟩
    · rintro (⟨e, he, hin, rfl⟩ | ⟨hd, hout⟩)
      · have hplace := hr.place_within h htarget (.inr he) hin
        exact ⟨.inl ⟨e, he, hin, rfl⟩, hr.outside_source h htarget hplace.1 hplace.2⟩
      · exact ⟨.inr hd, hout⟩
  · simp only [without, get?_filesOutside, hc.get?_eq p hp, Bool.true_and]
    by_cases hin : Path.isWithin p target = true
    · have hout := hr.outside_source h htarget hp hin
      have hbelow : Path.isBelow p source = false := by
        rw [← Bool.not_eq_true] at hout ⊢
        exact fun hb => hout (Path.isWithin_iff.2 (.inr hb))
      simp [hin, hbelow]
    · rw [if_neg hin, if_neg hin]
      -- the source itself is no file, so nothing within it is left
      by_cases hs : p = source
      · have hnone : store.files.get? source = none :=
          Table.get?_eq_none_iff.2 fun hf => h.not_both source hf hr.source_mem
        simp [hs, hnone]
      · simp [Path.isWithin, hs]
  · simp

/-- **A relocation in whose way nothing stands relocates everything.** -/
theorem relocated_perform (move : Bool) :
    ∃ done, store.perform (.relocation move source target) = (done, none) ∧
      store.Relocated source target move done := by
  cases move with
  | false => exact relocated_copyDirectory h hr htarget
  | true => exact relocated_moveDirectory h hr htarget

end

/-- A relocation in whose way something stands has changed nothing. -/
theorem perform_relocation_of_error {error : StoreError} (move : Bool)
    (herror : store.relocationError? source target = some error) :
    store.perform (.relocation move source target) = (store, some error) := by
  cases move with
  | false => simp [Operation.relocation, perform, copyDirectory, herror]
  | true => simp [Operation.relocation, perform, moveDirectory, herror]

/-! ## Every operation -/

theorem moveFile_eq_of_error (h : WellFormed store) {error : StoreError}
    (herror : (store.moveFile source target).2 = some error) :
    (store.moveFile source target).1 = store := by
  cases hcopy : store.copyFile source target with
  | error error => simp only [moveFile, hcopy]
  | ok copied =>
    by_cases hsame : target = source
    · simp only [moveFile, hcopy, if_pos hsame] at herror
      cases herror
    · obtain ⟨file, files, -, hmove, -⟩ := moveFile_eq h hcopy hsame
      rw [hmove] at herror
      cases herror

theorem relocation_eq_of_error (h : WellFormed store) (htarget : Path.IsCanonical target)
    (move : Bool) {error : StoreError}
    (herror : (store.perform (.relocation move source target)).2 = some error) :
    (store.perform (.relocation move source target)).1 = store := by
  cases hfault : store.relocationError? source target with
  | some fault => rw [perform_relocation_of_error move hfault]
  | none =>
    obtain ⟨done, hdone, -⟩ :=
      relocated_perform h (relocationError?_eq_none_iff.1 hfault) htarget move
    rw [hdone] at herror
    cases herror

/-- **An operation that fails has changed nothing:** directories, files with their texts, types
and identities, working directory and counter are what they were. In particular a relocation fails
exactly if its first check does, and else everything within the source is relocated. -/
theorem perform_atomic (h : WellFormed store) :
    (∀ operation : Operation, operation.IsCanonical → ∀ error,
      (store.perform operation).2 = some error → (store.perform operation).1 = store) ∧
    ∀ (move : Bool) (source target : String), Path.IsCanonical target →
      (∀ error, store.relocationError? source target = some error →
        store.perform (.relocation move source target) = (store, some error)) ∧
      (store.relocationError? source target = none →
        ∃ done, store.perform (.relocation move source target) = (done, none) ∧
          store.Relocated source target move done) := by
  refine ⟨fun operation hop error herror => ?_, fun move source target htarget =>
    ⟨fun error => perform_relocation_of_error move, fun hnone =>
      relocated_perform h (relocationError?_eq_none_iff.1 hnone) htarget move⟩⟩
  cases operation with
  | changeDirectory path => exact attempt_eq_of_error herror
  | createDirectory path parents => exact attempt_eq_of_error herror
  | writeFile path content append mimeType => exact attempt_eq_of_error herror
  | touch path => exact attempt_eq_of_error herror
  | deleteFile path => exact attempt_eq_of_error herror
  | deleteDirectory path recursive => exact attempt_eq_of_error herror
  | copyFile source target => exact attempt_eq_of_error herror
  | moveFile source target => exact moveFile_eq_of_error h herror
  | copyDirectory source target =>
    exact relocation_eq_of_error h (hop target (by simp [Operation.paths])) false herror
  | moveDirectory source target =>
    exact relocation_eq_of_error h (hop target (by simp [Operation.paths])) true herror
  | clear => cases herror

/-- A file two directories deep, where the working directory is too. -/
def nested : Store where
  directories := ["/", "/a", "/a/b"]
  files := Table.ofList [("/a/b/c", ⟨"x", none, some "1"⟩)]
  cwd := "/a/b"
  revision := 3

theorem wellFormed_nested : nested.WellFormed := by decide

theorem perform_atomic_nested :
    nested.WellFormed ∧
      (nested.perform (.moveFile "/a/b/c" "/a")).2 = some (.isDirectory "/a") ∧
      (nested.perform (.moveFile "/a/b/c" "/a")).1 = nested ∧
      nested.perform (.relocation true "/a" "/a/b/d") = (nested, some (.insideItself "/a/b/d")) ∧
      nested.relocationError? "/a" "/d" = none ∧
      ∃ done, nested.perform (.relocation true "/a" "/d") = (done, none) ∧
        nested.Relocated "/a" "/d" true done := by
  have hcanonical : (Operation.moveFile "/a/b/c" "/a").IsCanonical := by
    simp only [Operation.IsCanonical, Operation.paths, List.forall_mem_cons]
    exact ⟨⟨["a", "b", "c"], by decide, by decide⟩, ⟨["a"], by decide, by decide⟩, by simp⟩
  have hrefused : (nested.perform (.moveFile "/a/b/c" "/a")).2 = some (.isDirectory "/a") := by
    decide +kernel
  have hfree : nested.relocationError? "/a" "/d" = none := by decide +kernel
  have hinside : nested.relocationError? "/a" "/a/b/d" = some (.insideItself "/a/b/d") := by
    decide +kernel
  obtain ⟨hunchanged, hrelocation⟩ := perform_atomic wellFormed_nested
  refine ⟨wellFormed_nested, hrefused, hunchanged _ hcanonical _ hrefused, ?_, hfree, ?_⟩
  · exact (hrelocation true "/a" "/a/b/d" ⟨["a", "b", "d"], by decide, by decide⟩).1 _ hinside
  · exact (hrelocation true "/a" "/d" ⟨["d"], by decide, by decide⟩).2 hfree

end Store
end EditorShell

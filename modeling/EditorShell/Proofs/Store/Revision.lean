import EditorShell.Proofs.Store.Atomic
import EditorShell.Store.Query
import Mathlib.Data.Finset.Card
import Mathlib.Data.Finset.SDiff

/-!
# The counter counts changes

The counter of a store grows with every file and directory that is created, updated or removed, one
by one, wherever in an operation this happens. What comes of it is that it counts the difference: an
operation that succeeds raises it by one for each path that is there afterwards and was not before,
by one for each that was there before and is not afterwards, and by one more if it wrote over a file
(`revision_perform`). For each operation there is a list of the paths that come and one of those
that go, each named once, and the counter has grown by the lengths of the two (`Counted.of_lists`).
-/

namespace EditorShell

/-- The operation writes over a file of the store. -/
def Operation.Overwrites (store : Store) : Operation → Prop
  | .writeFile path _ _ _ => path ∈ store.files.keys
  | .copyFile source target | .moveFile source target =>
    target ≠ source ∧ target ∈ store.files.keys
  | _ => False

instance (store : Store) : DecidablePred (Operation.Overwrites store)
  | .writeFile path _ _ _ => inferInstanceAs (Decidable (path ∈ store.files.keys))
  | .copyFile source target | .moveFile source target =>
    inferInstanceAs (Decidable (target ≠ source ∧ target ∈ store.files.keys))
  | .changeDirectory _ | .createDirectory _ _ | .touch _ | .deleteFile _ | .deleteDirectory _ _
  | .copyDirectory _ _ | .moveDirectory _ _ | .clear => inferInstanceAs (Decidable False)

namespace Store

variable {store copied done : Store} {path source target : String} {more : Nat}

/-- The paths at which something lives. -/
def taken (store : Store) : Finset String := (store.directories ++ store.files.keys).toFinset

@[simp] theorem mem_taken {p : String} :
    p ∈ store.taken ↔ p ∈ store.directories ∨ p ∈ store.files.keys := by simp [taken]

/-- The counter has grown by one for each path that has come, by one for each that has gone, and by
`more`. -/
def Counted (store : Store) (more : Nat) (done : Store) : Prop :=
  done.revision =
    store.revision + (done.taken \ store.taken).card + (store.taken \ done.taken).card + more

namespace Counted

/-- What has come and what has gone may be listed, if each path is named once. -/
theorem of_lists (come gone : List String) (hcome : come.Nodup) (hgone : gone.Nodup)
    (mem_come_iff : ∀ p, p ∈ come ↔ p ∈ done.taken ∧ p ∉ store.taken)
    (mem_gone_iff : ∀ p, p ∈ gone ↔ p ∈ store.taken ∧ p ∉ done.taken)
    (hrevision : done.revision = store.revision + come.length + gone.length + more) :
    store.Counted more done := by
  have hcard {list : List String} {paths : Finset String} (hlist : list.Nodup)
      (hmem : ∀ p, p ∈ list ↔ p ∈ paths) : paths.card = list.length := by
    rw [← List.toFinset_card_of_nodup hlist]
    congr 1
    ext p
    rw [List.mem_toFinset, hmem]
  rw [Counted, hrevision, hcard hcome fun p => by rw [mem_come_iff, Finset.mem_sdiff],
    hcard hgone fun p => by rw [mem_gone_iff, Finset.mem_sdiff]]

/-- Nothing has come and nothing has gone. -/
theorem of_taken_eq (htaken : done.taken = store.taken)
    (hrevision : done.revision = store.revision + more) : store.Counted more done := by
  simp [Counted, htaken, hrevision]

theorem refl (store : Store) : store.Counted 0 store := of_taken_eq rfl rfl

/-- Two steps count together if none of them undoes a part of the other: what has come stays, and
what has gone does not come back. -/
theorem trans {middle : Store} {more' : Nat} (h : store.Counted more middle)
    (h' : middle.Counted more' done) (hstays : ∀ p ∈ middle.taken, p ∉ store.taken → p ∈ done.taken)
    (hgone : ∀ p ∈ store.taken, p ∉ middle.taken → p ∉ done.taken) :
    store.Counted (more + more') done := by
  have hcome : done.taken \ store.taken =
      (middle.taken \ store.taken).disjUnion (done.taken \ middle.taken)
        (Finset.disjoint_left.2 fun p hp hp' =>
          (Finset.mem_sdiff.1 hp').2 (Finset.mem_sdiff.1 hp).1) := by
    ext p
    rw [Finset.mem_disjUnion, Finset.mem_sdiff, Finset.mem_sdiff, Finset.mem_sdiff]
    have := hstays p
    have := hgone p
    tauto
  have hgo : store.taken \ done.taken =
      (store.taken \ middle.taken).disjUnion (middle.taken \ done.taken)
        (Finset.disjoint_left.2 fun p hp hp' =>
          (Finset.mem_sdiff.1 hp).2 (Finset.mem_sdiff.1 hp').1) := by
    ext p
    rw [Finset.mem_disjUnion, Finset.mem_sdiff, Finset.mem_sdiff, Finset.mem_sdiff]
    have := hstays p
    have := hgone p
    tauto
  rw [Counted] at *
  rw [hcome, hgo, Finset.card_disjUnion, Finset.card_disjUnion]
  omega

end Counted

/-! ## Operations on one path -/

theorem counted_changeDirectory (h : store.changeDirectory path = .ok done) :
    store.Counted 0 done := by
  obtain ⟨-, rfl⟩ := changeDirectory_eq_ok_iff.1 h
  exact .of_taken_eq rfl rfl

theorem counted_createDirectory (hpath : Path.IsCanonical path) {parents : Bool}
    (h : store.createDirectory path parents = .ok done) : store.Counted 0 done := by
  obtain ⟨hfile, ⟨-, rfl⟩ | ⟨hdir, hmissing, rfl⟩⟩ := createDirectory_eq_ok h
  · exact .refl done
  have hself : path ∉ Path.ancestors path := by simp [Path.mem_ancestors_iff hpath hpath]
  refine .of_lists ((Path.ancestors path).filter (!store.isDirectory ·) ++ [path]) [] ?_
    List.nodup_nil (fun p => ?_) (fun p => ?_) (by simp)
  · refine List.nodup_append.2 ⟨(Path.nodup_ancestors hpath).filter _, by simp, ?_⟩
    intro a ha b hb
    rw [List.mem_singleton.1 hb]
    exact fun he => hself (he ▸ (List.mem_filter.1 ha).1)
  · have := hmissing p
    simp only [mem_taken, mem_directories_addDirectories, files_addDirectories, List.mem_append,
      List.mem_filter, Bool.not_eq_true', isDirectory_eq_false_iff, List.mem_singleton]
    grind
  · simp only [mem_taken, mem_directories_addDirectories, files_addDirectories, List.not_mem_nil]
    tauto

theorem counted_writeFile {content : String} {append : Bool} {mimeType : Option String}
    (h : store.writeFile path content append mimeType = .ok done) :
    store.Counted (if path ∈ store.files.keys then 1 else 0) done := by
  obtain ⟨⟨-, hdir, -⟩, rfl⟩ := writeFile_eq_ok_iff.1 h
  split_ifs with hfile
  · refine .of_taken_eq ?_ rfl
    ext p
    simp only [mem_taken, mem_keys_writeIn]
    grind
  · refine .of_lists [path] [] (by simp) (by simp) (fun p => ?_) (fun p => ?_) rfl
    all_goals
      simp only [mem_taken, mem_keys_writeIn]
      grind

theorem counted_touch (h : store.touch path = .ok done) : store.Counted 0 done := by
  unfold touch at h
  split_ifs at h with htaken
  · cases h
    exact .refl store
  · have hfree : path ∉ store.files.keys := fun hmem => htaken (by simp [isTaken, hmem])
    simpa [hfree] using counted_writeFile h

theorem counted_deleteFile (h : store.deleteFile path = .ok done) : store.Counted 0 done := by
  obtain ⟨⟨hdir, hfile⟩, rfl⟩ := deleteFile_eq_ok_iff.1 h
  refine .of_lists [] [path] (by simp) (by simp) (fun p => ?_) (fun p => ?_) rfl
  all_goals
    simp only [mem_taken, Table.mem_keys_erase]
    grind

/-- Without a directory, the paths within it are gone. -/
theorem WellFormed.mem_taken_without (h : WellFormed store) (hdir : path ∈ store.directories)
    {p : String} :
    p ∈ (store.without path).taken ↔ p ∈ store.taken ∧ Path.isWithin p path = false := by
  have hfile : p ∈ store.files.keys →
      (Path.isBelow p path = false ↔ Path.isWithin p path = false) := by
    intro hp
    have hne : p ≠ path := fun he => h.not_both p hp (he ▸ hdir)
    rw [← Bool.not_eq_true, ← Bool.not_eq_true, Path.isBelow_iff, and_iff_left hne]
  simp only [mem_taken, Store.without, List.mem_filter, Bool.not_eq_true', mem_keys_filesOutside]
  tauto

theorem counted_without (h : WellFormed store) (hdir : path ∈ store.directories) :
    store.Counted 0 (store.without path) := by
  have hpath := h.canonical path (.inr hdir)
  refine .of_lists [] (path :: (store.filesBelow path ++ store.directoriesBelow path))
    List.nodup_nil ?_ (fun p => ?_) (fun p => ?_) ?_
  · refine List.nodup_cons.2 ⟨by simp [filesBelow, directoriesBelow], ?_⟩
    refine List.nodup_append.2 ⟨store.files.nodup.filter _, h.nodup.filter _, ?_⟩
    rintro p hp q hq rfl
    exact h.not_both p (List.mem_filter.1 hp).1 (List.mem_filter.1 hq).1
  · rw [h.mem_taken_without hdir, List.mem_nil_iff]
    tauto
  · rw [h.mem_taken_without hdir]
    simp only [List.mem_cons, List.mem_append, filesBelow, directoriesBelow, List.mem_filter,
      mem_taken, Path.isWithin_iff, ← Bool.not_eq_true]
    grind
  · simp only [without, List.length_cons, List.length_append, List.length_nil]
    omega

/-! ## Copying and moving -/

theorem counted_copyFile (h : store.copyFile source target = .ok copied) :
    store.Counted (if target ≠ source ∧ target ∈ store.files.keys then 1 else 0) copied := by
  obtain ⟨file, -, hok⟩ := copyFile_eq_ok_iff.1 h
  by_cases hsame : target = source
  · rw [if_pos hsame] at hok
    simpa [hsame, hok] using Counted.refl copied
  · rw [if_neg hsame] at hok
    simpa [hsame] using counted_writeFile hok

/-- Nothing goes when a file is copied. -/
theorem taken_subset_copyFile (h : store.copyFile source target = .ok copied) :
    store.taken ⊆ copied.taken := by
  intro p hp
  obtain ⟨file, -, hok⟩ := copyFile_eq_ok_iff.1 h
  split_ifs at hok
  · exact hok ▸ hp
  · obtain ⟨-, rfl⟩ := writeFile_eq_ok_iff.1 hok
    simp only [mem_taken, mem_keys_writeIn] at hp ⊢
    tauto

theorem taken_carryNodeId (store : Store) (source target : String) :
    (store.carryNodeId source target).taken = store.taken := by
  obtain heq | ⟨nodeId, heq⟩ := carryNodeId_eq store source target
  · rw [heq]
  · ext p
    simp [heq]

theorem counted_moveFile (hok : (store.moveFile source target).2 = none) :
    store.Counted (if target ≠ source ∧ target ∈ store.files.keys then 1 else 0)
      (store.moveFile source target).1 := by
  cases hcopy : store.copyFile source target with
  | error error =>
    rw [moveFile, hcopy] at hok
    cases hok
  | ok copied =>
    have hcopied := counted_copyFile hcopy
    generalize (if target ≠ source ∧ target ∈ store.files.keys then 1 else 0) = more at hcopied ⊢
    simp only [moveFile, hcopy] at hok ⊢
    split_ifs at hok ⊢ with hsame
    · exact hcopied
    have htaken := taken_carryNodeId copied source target
    have hcarried : store.Counted more (copied.carryNodeId source target) := by
      rwa [Counted, htaken, revision_carryNodeId]
    generalize copied.carryNodeId source target = carried at hok htaken hcarried ⊢
    cases hdelete : carried.deleteFile source with
    | error error =>
      rw [hdelete] at hok
      cases hok
    | ok removed =>
      -- the source was there before the copy, so it is not what the copy has brought
      have hsource : source ∈ store.taken := by
        obtain ⟨file, hfile, -⟩ := copyFile_eq_ok_iff.1 hcopy
        exact mem_taken.2 (.inr (Table.mem_keys_of_get? hfile))
      refine hcarried.trans (counted_deleteFile hdelete) (fun p hp hnew => ?_)
        (fun p hp hgone => ?_)
      · obtain ⟨-, rfl⟩ := deleteFile_eq_ok_iff.1 hdelete
        have hne : p ≠ source := fun he => hnew (he ▸ hsource)
        simp only [mem_taken, Table.mem_keys_erase] at hp ⊢
        tauto
      · rw [htaken] at hgone
        exact absurd (taken_subset_copyFile hcopy hp) hgone

/-- The paths that move along with a directory, in the order in which they are copied. -/
def subtreePaths (store : Store) (source : String) : List String :=
  store.subtreeDirectories source ++ store.subtreeFiles source

theorem within_of_mem_subtreePaths (hp : path ∈ store.subtreePaths source) :
    (path ∈ store.files.keys ∨ path ∈ store.directories) ∧ Path.isWithin path source = true := by
  rcases List.mem_append.1 hp with hp | hp
  · obtain ⟨hmem, hin⟩ := mem_subtreeDirectories.1 hp
    exact ⟨.inr hmem, hin⟩
  · obtain ⟨hmem, hbelow⟩ := mem_subtreeFiles.1 hp
    exact ⟨.inl hmem, Path.isWithin_of_isBelow hbelow⟩

theorem nodup_subtreePaths (h : WellFormed store) (source : String) :
    (store.subtreePaths source).Nodup := by
  refine List.nodup_append.2 ⟨?_, ?_, ?_⟩
  · exact (Text.sort_perm _).nodup_iff.2 (h.nodup.filter _)
  · exact (Text.sort_perm _).nodup_iff.2 (store.files.nodup.filter _)
  · rintro p hp q hq rfl
    exact h.not_both p (mem_subtreeFiles.1 hq).1 (mem_subtreeDirectories.1 hp).1

theorem IsCopy.mem_taken_iff {carryIds : Bool} (hc : store.IsCopy source target carryIds copied) :
    path ∈ copied.taken ↔
      path ∈ store.taken ∨ path ∈ (store.subtreePaths source).map (Path.moved source target) := by
  rw [mem_taken, mem_taken, hc.directories_eq, withTarget, mem_directories_addDirectories,
    hc.mem_keys_iff, subtreePaths, List.map_append, List.mem_append]
  tauto

section

variable (h : WellFormed store) (hr : store.Relocatable source target)
  (htarget : Path.IsCanonical target)
include h hr htarget

/-- **A copy of a directory counts what it brings,** each directory and each file once. -/
theorem IsCopy.counted {carryIds : Bool} (hc : store.IsCopy source target carryIds copied) :
    store.Counted 0 copied := by
  have hsource := hr.isCanonical_source h
  refine .of_lists ((store.subtreePaths source).map (Path.moved source target)) [] ?_
    List.nodup_nil (fun p => ?_) (fun p => ?_) ?_
  · refine List.Nodup.map_on (fun p hp q hq heq => ?_) (nodup_subtreePaths h source)
    obtain ⟨hpmem, hpin⟩ := within_of_mem_subtreePaths hp
    obtain ⟨hqmem, hqin⟩ := within_of_mem_subtreePaths hq
    exact (Path.moved_inj hsource htarget (h.canonical p hpmem) (h.canonical q hqmem) hpin
      hqin).1 heq
  · rw [hc.mem_taken_iff]
    refine ⟨fun hp => ⟨.inr hp, ?_⟩, fun hp => hp.1.resolve_left hp.2⟩
    obtain ⟨q, hq, rfl⟩ := List.mem_map.1 hp
    obtain ⟨hqmem, hqin⟩ := within_of_mem_subtreePaths hq
    have hfree := hr.place_free h htarget hqmem hqin
    simpa using ⟨hfree.2, hfree.1⟩
  · rw [hc.mem_taken_iff, List.mem_nil_iff]
    tauto
  · rw [hc.revision_eq, List.length_map, subtreePaths, List.length_append, List.length_nil]
    omega

/-- What a copy of a directory brings lies outside the source. -/
theorem IsCopy.outside_source {carryIds : Bool}
    (hc : store.IsCopy source target carryIds copied) (hpath : path ∈ copied.taken)
    (hnew : path ∉ store.taken) : Path.isWithin path source = false := by
  obtain ⟨q, hq, rfl⟩ := List.mem_map.1 ((hc.mem_taken_iff.1 hpath).resolve_left hnew)
  obtain ⟨hmem, hin⟩ := within_of_mem_subtreePaths hq
  obtain ⟨hcanonical, hplace⟩ := hr.place_within h htarget hmem hin
  exact hr.outside_source h htarget hcanonical hplace

end

theorem counted_copyDirectory (h : WellFormed store) (htarget : Path.IsCanonical target)
    (hok : (store.copyDirectory source target).2 = none) :
    store.Counted 0 (store.copyDirectory source target).1 := by
  cases herror : store.relocationError? source target with
  | some error =>
    rw [copyDirectory, herror] at hok
    cases hok
  | none =>
    have hr := relocationError?_eq_none_iff.1 herror
    obtain ⟨copied, hcopy, hc⟩ := copySubtree_eq h hr htarget false
    rw [copyDirectory, herror]
    simp only [hcopy]
    exact hc.counted h hr htarget

theorem counted_moveDirectory (h : WellFormed store) (htarget : Path.IsCanonical target)
    (hok : (store.moveDirectory source target).2 = none) :
    store.Counted 0 (store.moveDirectory source target).1 := by
  cases herror : store.relocationError? source target with
  | some error =>
    rw [moveDirectory, herror] at hok
    cases hok
  | none =>
    have hr := relocationError?_eq_none_iff.1 herror
    obtain ⟨copied, hc, hmove⟩ := moveDirectory_eq h hr htarget
    have hwell := hc.wellFormed h hr htarget
    have hmem := hc.source_mem hr
    rw [hmove]
    refine (hc.counted h hr htarget).trans (counted_without hwell hmem) (fun p hp hnew => ?_)
      (fun p hp hgone => ?_)
    · exact (hwell.mem_taken_without hmem).2 ⟨hp, hc.outside_source h hr htarget hp hnew⟩
    · exact absurd (hc.mem_taken_iff.2 (.inl hp)) hgone

/-! ## Every operation -/

theorem counted_attempt {result : Except StoreError Store}
    (hok : (store.attempt result).2 = none)
    (hcounted : ∀ done, result = .ok done → store.Counted more done) :
    store.Counted more (store.attempt result).1 := by
  cases result with
  | error error => cases hok
  | ok done => exact hcounted done rfl

/-- **The counter counts changes exactly.** An operation that succeeds raises it by the number of
paths that are there afterwards and were not before, and of those that were there before and are not
afterwards, and by one more if it has written over a file. A question that is answered, or is not,
leaves it. -/
theorem revision_perform (h : WellFormed store) :
    (∀ operation : Operation, operation.IsCanonical → operation ≠ .clear →
      (store.perform operation).2 = none →
        (store.perform operation).1.revision = store.revision +
          ((store.perform operation).1.taken \ store.taken).card +
          (store.taken \ (store.perform operation).1.taken).card +
          if operation.Overwrites store then 1 else 0) ∧
    ∀ query : Query, (store.ask query).1.revision = store.revision := by
  refine ⟨fun operation hop hclear hok => ?_, fun query => rfl⟩
  change store.Counted (if operation.Overwrites store then 1 else 0) _
  cases operation with
  | changeDirectory path => exact counted_attempt hok fun _ => counted_changeDirectory
  | createDirectory path parents =>
    have hpath := hop path (by simp [Operation.paths])
    exact counted_attempt hok fun _ => counted_createDirectory hpath
  | writeFile path content append mimeType =>
    exact counted_attempt hok fun _ => counted_writeFile
  | touch path => exact counted_attempt hok fun _ => counted_touch
  | deleteFile path => exact counted_attempt hok fun _ => counted_deleteFile
  | deleteDirectory path recursive =>
    refine counted_attempt hok fun done hdone => ?_
    obtain ⟨⟨-, -, hdir, -⟩, rfl⟩ := deleteDirectory_eq_ok_iff.1 hdone
    exact counted_without h hdir
  | copyFile source target => exact counted_attempt hok fun _ => counted_copyFile
  | moveFile source target => exact counted_moveFile hok
  | copyDirectory source target =>
    exact counted_copyDirectory h (hop target (by simp [Operation.paths])) hok
  | moveDirectory source target =>
    exact counted_moveDirectory h (hop target (by simp [Operation.paths])) hok
  | clear => exact absurd rfl hclear

/-- A file two directories deep, and another one at the top. -/
def spread : Store where
  directories := ["/", "/a", "/a/b"]
  files := Table.ofList [("/a/b/x", ⟨"1", none, some "n"⟩), ("/y", ⟨"2", none, none⟩)]
  cwd := "/a"
  revision := 4

theorem wellFormed_spread : spread.WellFormed := by decide

/-- Three paths go with the directory; when one file is moved over the other, one path goes and one
file is written over. -/
theorem revision_perform_spread :
    (spread.perform (.deleteDirectory "/a" true)).1.revision = spread.revision + 0 + 3 + 0 ∧
      (spread.perform (.moveFile "/a/b/x" "/y")).1.revision = spread.revision + 0 + 1 + 1 ∧
      (spread.ask (.walk "/z")).1.revision = spread.revision := by
  obtain ⟨hperform, hask⟩ := revision_perform wellFormed_spread
  refine ⟨?_, ?_, hask _⟩
  · have hdeleted := hperform (.deleteDirectory "/a" true)
      (show ∀ p ∈ ["/a"], Path.IsCanonical p by decide) (by simp) (by decide +kernel)
    have hcome :
        ((spread.perform (.deleteDirectory "/a" true)).1.taken \ spread.taken).card = 0 := by
      decide +kernel
    have hgone :
        (spread.taken \ (spread.perform (.deleteDirectory "/a" true)).1.taken).card = 3 := by
      decide +kernel
    rwa [hcome, hgone, if_neg (by decide)] at hdeleted
  · have hmoved := hperform (.moveFile "/a/b/x" "/y")
      (show ∀ p ∈ ["/a/b/x", "/y"], Path.IsCanonical p by decide) (by simp) (by decide +kernel)
    have hcome : ((spread.perform (.moveFile "/a/b/x" "/y")).1.taken \ spread.taken).card = 0 := by
      decide +kernel
    have hgone : (spread.taken \ (spread.perform (.moveFile "/a/b/x" "/y")).1.taken).card = 1 := by
      decide +kernel
    rwa [hcome, hgone, if_pos (by decide +kernel)] at hmoved

end Store
end EditorShell

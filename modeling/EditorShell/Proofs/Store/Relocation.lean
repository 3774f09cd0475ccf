import EditorShell.Proofs.Store.WellFormed

/-!
# Relocating a directory

In a well-formed store nothing lives within a path that is free, so once `relocationError?` finds no
fault every step of a relocation succeeds: `copySubtree_eq` says what the copy is, entry by entry,
and `moveDirectory_eq` adds the removal of the source. The second check that the operations make on
the way is never the one that fails.
-/

namespace EditorShell
namespace Store

variable {store : Store} {source target path : String} {carryIds : Bool}

/-- A file as it arrives at its new place: a copy has no identity, what moves keeps its own. -/
def relocated (carryIds : Bool) (file : File) : File :=
  { file with nodeId := if carryIds then file.nodeId else none }

/-! ## Copying files one by one -/

/-- One step of `copyFiles`: the file arrives at a place that is free. -/
theorem copyFile_free {file : File} (hsource : store.files.get? source = some file)
    (hfree : target ∉ store.files.keys) (hdir : target ∉ store.directories)
    (hroot : target ≠ Path.root) (hparent : Path.parent target ∈ store.directories) :
    ∃ copied files, store.copyFile source target = .ok copied ∧
      (if carryIds then copied.carryNodeId source target else copied) =
        { store with files := files, revision := store.revision + 1 } ∧
      ∀ p, files.get? p =
        if p = target then some (relocated carryIds file) else store.files.get? p := by
  have hne : target ≠ source := by
    rintro rfl
    rw [Table.get?_eq_none_iff.2 hfree] at hsource
    cases hsource
  let fresh : File := ⟨file.content, file.mimeType, none⟩
  have hwrite : writeIn store.files target file.content false file.mimeType =
      store.files.set target fresh := by
    rw [writeIn, Table.get?_eq_none_iff.2 hfree]
  refine ⟨{ store with files := store.files.set target fresh, revision := store.revision + 1 },
    if carryIds then (store.files.set target fresh).set target { fresh with nodeId := file.nodeId }
    else store.files.set target fresh, ?_, ?_, fun p => ?_⟩
  · rw [copyFile_eq_ok_iff]
    refine ⟨file, hsource, ?_⟩
    rw [if_neg hne, writeFile_eq_ok_iff, hwrite]
    exact ⟨⟨hroot, hdir, hparent⟩, rfl⟩
  · cases carryIds
    · rfl
    · simp [carryNodeId, setNodeId, hne.symm, hsource]
  · cases carryIds <;> by_cases hp : p = target <;> simp [hp, fresh, relocated]

/-- **Copying files to places that are free.** Every file arrives, nothing else changes, and each of
them counts once. -/
theorem copyFiles_eq {place : String → String} {paths : List String}
    (hsource : ∀ p ∈ paths, p ∈ store.files.keys)
    (hfree : ∀ p ∈ paths, place p ∉ store.files.keys ∧ place p ∉ store.directories ∧
      place p ≠ Path.root ∧ Path.parent (place p) ∈ store.directories)
    (hinj : (paths.map place).Nodup) :
    ∃ files, copyFiles place carryIds paths store =
        ({ store with files := files, revision := store.revision + paths.length }, none) ∧
      ∀ q, files.get? q =
        match paths.find? (place · = q) with
        | some p => (store.files.get? p).map (relocated carryIds)
        | none => store.files.get? q := by
  induction paths generalizing store with
  | nil => exact ⟨store.files, rfl, fun q => rfl⟩
  | cons p paths ih =>
    obtain ⟨file, hfile⟩ := Option.isSome_iff_exists.1 <|
      Table.get?_isSome_iff.2 (hsource p (by simp))
    obtain ⟨hkeys, hdir, hroot, hparent⟩ := hfree p (by simp)
    obtain ⟨copied, first, hcopied, hnext, hfirst⟩ :=
      @copyFile_free store p (place p) carryIds file hfile hkeys hdir hroot hparent
    rw [List.map_cons, List.nodup_cons] at hinj
    have hmem : ∀ q, q ∈ first.keys ↔ q ∈ store.files.keys ∨ q = place p := by
      intro q
      rw [← Table.get?_isSome_iff, ← Table.get?_isSome_iff, hfirst]
      by_cases hq : q = place p <;> simp [hq]
    have hne : ∀ q ∈ paths, place q ≠ place p := fun q hq he =>
      hinj.1 (he ▸ List.mem_map_of_mem hq)
    obtain ⟨files, hfiles, hget⟩ :=
      @ih { store with files := first, revision := store.revision + 1 }
        (fun q hq => (hmem q).2 (.inl (hsource q (by simp [hq]))))
        (fun q hq => by
          obtain ⟨hkeys, hrest⟩ := hfree q (by simp [hq])
          refine ⟨fun hq' => ?_, hrest⟩
          rcases (hmem _).1 hq' with h | h
          · exact hkeys h
          · exact hne q hq h)
        hinj.2
    refine ⟨files, ?_, fun q => ?_⟩
    · simp only [copyFiles, hcopied, hnext, hfiles, List.length_cons]
      simp [Nat.add_assoc, Nat.add_comm 1]
    · rw [hget, List.find?_cons]
      by_cases hq : place p = q
      · subst hq
        have hnone : paths.find? (place · = place p) = none := by
          simpa [List.find?_eq_none] using hne
        simp [hnone, hfirst, hfile]
      · simp only [hq, decide_false]
        cases hfind : paths.find? (place · = q) with
        | none => simp [hfirst, Ne.symm hq]
        | some r =>
          have hr : r ∈ store.files.keys := hsource r (by simp [List.mem_of_find?_eq_some hfind])
          have hrp : r ≠ place p := fun he => hkeys (he ▸ hr)
          simp [hfirst, hrp]

/-! ## Relocating a directory -/

/-- Nothing stands in the way of placing the directory `source` at `target`. -/
structure Relocatable (store : Store) (source target : String) : Prop where
  source_ne_root : source ≠ Path.root
  source_mem : source ∈ store.directories
  target_outside : Path.isWithin target source = false
  target_not_directory : target ∉ store.directories
  target_not_file : target ∉ store.files.keys
  parent_mem : Path.parent target ∈ store.directories

theorem relocationError?_eq_none_iff :
    store.relocationError? source target = none ↔ store.Relocatable source target := by
  have hiff : store.Relocatable source target ↔
      source ≠ Path.root ∧ source ∈ store.directories ∧ Path.isWithin target source = false ∧
        target ∉ store.directories ∧ target ∉ store.files.keys ∧
        Path.parent target ∈ store.directories :=
    ⟨fun ⟨a, b, c, d, e, f⟩ => ⟨a, b, c, d, e, f⟩, fun ⟨a, b, c, d, e, f⟩ => ⟨a, b, c, d, e, f⟩⟩
  rw [hiff, relocationError?]
  split_ifs with hroot hmem hin htaken hparent <;> simp_all [isTaken]
  grind

/-- The directories that move with `source`, in order. -/
def subtreeDirectories (store : Store) (source : String) : List String :=
  Text.sort (store.directories.filter (Path.isWithin · source))

/-- The files that move with `source`, in order. -/
def subtreeFiles (store : Store) (source : String) : List String :=
  Text.sort (store.filesBelow source)

@[simp] theorem mem_subtreeDirectories :
    path ∈ store.subtreeDirectories source ↔
      path ∈ store.directories ∧ Path.isWithin path source = true := by
  simp [subtreeDirectories]

@[simp] theorem mem_subtreeFiles :
    path ∈ store.subtreeFiles source ↔
      path ∈ store.files.keys ∧ Path.isBelow path source = true := by
  simp [subtreeFiles, filesBelow]

/-- The store with the directories of the copy and none of its files. -/
def withTarget (store : Store) (source target : String) : Store :=
  store.addDirectories ((store.subtreeDirectories source).map (Path.moved source target))

/-- What a copy of a directory is: the directories of the source arrive, then its files; within the
target lives what lives at the same place within the source, and elsewhere nothing changes. -/
structure IsCopy (store : Store) (source target : String) (carryIds : Bool) (copied : Store) :
    Prop where
  directories_eq : copied.directories = (store.withTarget source target).directories
  cwd_eq : copied.cwd = store.cwd
  revision_eq : copied.revision = store.revision + (store.subtreeDirectories source).length +
    (store.subtreeFiles source).length
  mem_keys_iff : ∀ p, p ∈ copied.files.keys ↔ p ∈ store.files.keys ∨
    p ∈ (store.subtreeFiles source).map (Path.moved source target)
  get?_eq : ∀ p, Path.IsCanonical p → copied.files.get? p =
    if Path.isWithin p target then
      (store.files.get? (Path.moved target source p)).map (relocated carryIds)
    else store.files.get? p

section

variable (h : WellFormed store) (hr : store.Relocatable source target)
  (htarget : Path.IsCanonical target)
include h hr

theorem Relocatable.isCanonical_source : Path.IsCanonical source :=
  h.canonical source (.inr hr.source_mem)

include htarget

/-- Nothing lives at or below a path that is free. -/
theorem Relocatable.outside_target (hp : path ∈ store.files.keys ∨ path ∈ store.directories) :
    Path.isWithin path target = false := by
  rw [← Bool.not_eq_true, Path.isWithin_iff]
  rintro (rfl | hbelow)
  · exact hp.elim hr.target_not_file hr.target_not_directory
  · exact hr.target_not_directory (h.mem_of_isBelow hp htarget hbelow)

/-- What lies within the target lies outside the source. -/
theorem Relocatable.outside_source (hpath : Path.IsCanonical path)
    (hin : Path.isWithin path target = true) : Path.isWithin path source = false := by
  have hsource := hr.isCanonical_source h
  rw [← Bool.not_eq_true]
  intro hsin
  rcases Path.isWithin_total hpath htarget hsource hin hsin with hts | hst
  · simp [hr.target_outside] at hts
  · simp [hr.outside_target h htarget (.inr hr.source_mem)] at hst

/-- A path that moves along has a place within the target. -/
theorem Relocatable.place_within (hp : path ∈ store.files.keys ∨ path ∈ store.directories)
    (hin : Path.isWithin path source = true) :
    Path.IsCanonical (Path.moved source target path) ∧
      Path.isWithin (Path.moved source target path) target = true :=
  ⟨Path.isCanonical_moved (hr.isCanonical_source h) htarget (h.canonical path hp) hin,
    Path.isWithin_moved (hr.isCanonical_source h) htarget (h.canonical path hp) hin⟩

/-- The place of what moves along is free. -/
theorem Relocatable.place_free (hp : path ∈ store.files.keys ∨ path ∈ store.directories)
    (hin : Path.isWithin path source = true) :
    Path.moved source target path ∉ store.files.keys ∧
      Path.moved source target path ∉ store.directories := by
  have hplace := (hr.place_within h htarget hp hin).2
  constructor
  · intro hmem
    simp [hr.outside_target h htarget (.inl hmem)] at hplace
  · intro hmem
    simp [hr.outside_target h htarget (.inr hmem)] at hplace

/-- The place of what lies below the source has its parent among the directories of the copy. -/
theorem Relocatable.parent_place_mem (hp : path ∈ store.files.keys ∨ path ∈ store.directories)
    (hbelow : Path.isBelow path source = true) :
    Path.parent (Path.moved source target path) ∈
      (store.subtreeDirectories source).map (Path.moved source target) := by
  have hsource := hr.isCanonical_source h
  have hcanonical := h.canonical path hp
  have hne : path ≠ Path.root := by
    rintro rfl
    rw [Path.isBelow_root_left hsource] at hbelow
    cases hbelow
  rw [Path.parent_moved hsource htarget hcanonical hbelow]
  refine List.mem_map_of_mem (mem_subtreeDirectories.2 ⟨h.parent_mem hp hne, ?_⟩)
  exact Path.isWithin_parent hcanonical hsource hbelow

theorem Relocatable.wellFormed_withTarget : WellFormed (store.withTarget source target) := by
  refine h.addDirectories fun d hd => ?_
  obtain ⟨e, he, rfl⟩ := List.mem_map.1 hd
  obtain ⟨hmem, hin⟩ := mem_subtreeDirectories.1 he
  refine ⟨(hr.place_within h htarget (.inr hmem) hin).1,
    (hr.place_free h htarget (.inr hmem) hin).1, fun _ => ?_⟩
  rcases Path.isWithin_iff.1 hin with rfl | hbelow
  · rw [Path.moved_self]
    exact .inr hr.parent_mem
  · exact .inl (hr.parent_place_mem h htarget (.inr hmem) hbelow)

/-- A file that moves along arrives beside the directories of the copy, and at none of them. -/
theorem Relocatable.file_place (hp : path ∈ store.subtreeFiles source) :
    Path.moved source target path ∉ (store.withTarget source target).directories ∧
      Path.parent (Path.moved source target path) ∈
        (store.withTarget source target).directories ∧
      Path.IsCanonical (Path.moved source target path) := by
  have hsource := hr.isCanonical_source h
  obtain ⟨hmem, hbelow⟩ := mem_subtreeFiles.1 hp
  have hin := Path.isWithin_iff.2 (.inr hbelow)
  refine ⟨fun hdir => ?_,
    mem_directories_addDirectories.2 (.inl (hr.parent_place_mem h htarget (.inl hmem) hbelow)),
    (hr.place_within h htarget (.inl hmem) hin).1⟩
  rcases mem_directories_addDirectories.1 hdir with hnew | hold
  · obtain ⟨d, hd, heq⟩ := List.mem_map.1 hnew
    obtain ⟨hdmem, hdin⟩ := mem_subtreeDirectories.1 hd
    have hsame := (Path.moved_inj hsource htarget (h.canonical d (.inr hdmem))
      (h.canonical path (.inl hmem)) hdin hin).1 heq
    exact h.not_both path hmem (hsame ▸ hdmem)
  · exact (hr.place_free h htarget (.inl hmem) hin).2 hold

/-- **A copy of a directory succeeds as a whole.** -/
theorem copySubtree_eq (carryIds : Bool) :
    ∃ copied, store.copySubtree source target carryIds = (copied, none) ∧
      store.IsCopy source target carryIds copied := by
  have hsource := hr.isCanonical_source h
  have hsub : ∀ p ∈ store.subtreeFiles source,
      p ∈ store.files.keys ∧ Path.isBelow p source = true ∧ Path.isWithin p source = true := by
    intro p hp
    obtain ⟨hmem, hbelow⟩ := mem_subtreeFiles.1 hp
    exact ⟨hmem, hbelow, Path.isWithin_iff.2 (.inr hbelow)⟩
  have hinj : ((store.subtreeFiles source).map (Path.moved source target)).Nodup := by
    refine (List.Nodup.map_on ?_ ((Text.sort_perm _).nodup_iff.2 (store.files.nodup.filter _)))
    intro p hp q hq heq
    obtain ⟨hpmem, -, hpin⟩ := hsub p hp
    obtain ⟨hqmem, -, hqin⟩ := hsub q hq
    exact (Path.moved_inj hsource htarget (h.canonical p (.inl hpmem))
      (h.canonical q (.inl hqmem)) hpin hqin).1 heq
  obtain ⟨files, hcopy, hget⟩ := @copyFiles_eq (store.withTarget source target) carryIds
    (Path.moved source target) (store.subtreeFiles source)
    (fun p hp => by simpa [withTarget] using (hsub p hp).1)
    (fun p hp => by
      obtain ⟨hmem, -, hin⟩ := hsub p hp
      have hfree := hr.place_free h htarget (.inl hmem) hin
      obtain ⟨hdir, hparent, -⟩ := hr.file_place h htarget hp
      exact ⟨by simpa [withTarget] using hfree.1, hdir, fun he => hfree.2 (he ▸ h.root_mem),
        hparent⟩)
    hinj
  simp only [withTarget, files_addDirectories] at hget
  refine ⟨_, hcopy, rfl, by simp [withTarget], by simp [withTarget], fun p => ?_,
    fun p hp => ?_⟩
  · rw [← Table.get?_isSome_iff, hget]
    cases hfind : (store.subtreeFiles source).find? (Path.moved source target · = p) with
    | none =>
      have hnot : p ∉ (store.subtreeFiles source).map (Path.moved source target) := by
        simpa [List.find?_eq_none] using hfind
      simp [hnot, Table.get?_isSome_iff]
    | some q =>
      have hq := List.mem_of_find?_eq_some hfind
      have heq : Path.moved source target q = p := by simpa using List.find?_some hfind
      have hmem : p ∈ (store.subtreeFiles source).map (Path.moved source target) :=
        List.mem_map.2 ⟨q, hq, heq⟩
      simp only [Option.isSome_map, Table.get?_isSome_iff, hmem, or_true, iff_true]
      exact (hsub q hq).1
  · rw [hget]
    cases hfind : (store.subtreeFiles source).find? (Path.moved source target · = p) with
    | some q =>
      have heq : Path.moved source target q = p := by simpa using List.find?_some hfind
      obtain ⟨hmem, -, hin⟩ := hsub q (List.mem_of_find?_eq_some hfind)
      rw [← heq, if_pos (hr.place_within h htarget (.inl hmem) hin).2,
        Path.moved_moved hsource htarget (h.canonical q (.inl hmem)) hin]
    | none =>
      split_ifs with hin
      · have hback := Path.isWithin_moved htarget hsource hp hin
        have habsent : Path.moved target source p ∉ store.files.keys := by
          intro hmem
          rcases Path.isWithin_iff.1 hback with heq | hbelow
          · exact h.not_both _ hmem (by rw [heq]; exact hr.source_mem)
          · refine List.find?_eq_none.1 hfind _ (mem_subtreeFiles.2 ⟨hmem, hbelow⟩) ?_
            simpa using Path.moved_moved htarget hsource hp hin
        have hfree : p ∉ store.files.keys := fun hmem => by
          simp [hr.outside_target h htarget (.inl hmem)] at hin
        simp [Table.get?_eq_none_iff.2 habsent, Table.get?_eq_none_iff.2 hfree]
      · rfl

omit h htarget in
/-- The source is still there when it has been copied. -/
theorem IsCopy.source_mem {copied : Store} (hc : store.IsCopy source target carryIds copied) :
    source ∈ copied.directories := by
  rw [hc.directories_eq]
  exact mem_directories_addDirectories.2 (.inr hr.source_mem)

theorem IsCopy.wellFormed {copied : Store} (hc : store.IsCopy source target carryIds copied) :
    WellFormed copied := by
  refine (hr.wellFormed_withTarget h htarget).of_files hc.directories_eq
    (by simp [hc.cwd_eq, withTarget]) fun p hp => ?_
  rcases (hc.mem_keys_iff p).1 hp with hold | hnew
  · exact .inl (by simpa [withTarget] using hold)
  · obtain ⟨q, hq, rfl⟩ := List.mem_map.1 hnew
    exact .inr (hr.file_place h htarget hq)

/-- **What a move of a directory is:** a copy with all identities, then the removal of the source.
The working directory goes along. -/
theorem moveDirectory_eq :
    ∃ copied, store.IsCopy source target true copied ∧
      store.moveDirectory source target =
        ({ copied.without source with
          cwd := if Path.isWithin store.cwd source then Path.moved source target store.cwd
            else store.cwd }, none) := by
  obtain ⟨copied, hcopy, hc⟩ := copySubtree_eq h hr htarget true
  have hwell := hc.wellFormed h hr htarget
  have hmem := hc.source_mem hr
  have hremoved : copied.deleteDirectory source true = .ok (copied.without source) :=
    deleteDirectory_eq_ok_iff.2 ⟨⟨hr.source_ne_root, fun hf => hwell.not_both _ hf hmem, hmem,
      .inr rfl⟩, rfl⟩
  refine ⟨copied, hc, ?_⟩
  rw [moveDirectory, relocationError?_eq_none_iff.2 hr]
  simp only [hcopy, hremoved, hc.cwd_eq]
  split_ifs with hcwd
  · rfl
  · simp [without, hc.cwd_eq, hcwd]

end

/-! ## Copies and moves stay well formed -/

namespace WellFormed

theorem copyDirectory (h : WellFormed store) (htarget : Path.IsCanonical target) :
    WellFormed (store.copyDirectory source target).1 := by
  unfold Store.copyDirectory
  split
  · exact h
  next hnone =>
    have hr := relocationError?_eq_none_iff.1 hnone
    obtain ⟨copied, hcopy, hc⟩ := copySubtree_eq h hr htarget false
    rw [hcopy]
    exact hc.wellFormed h hr htarget

theorem moveDirectory (h : WellFormed store) (htarget : Path.IsCanonical target) :
    WellFormed (store.moveDirectory source target).1 := by
  cases herror : store.relocationError? source target with
  | some error => simpa [Store.moveDirectory, herror] using h
  | none =>
    have hr := relocationError?_eq_none_iff.1 herror
    obtain ⟨copied, hc, hmove⟩ := moveDirectory_eq h hr htarget
    have hwell := (hc.wellFormed h hr htarget).without (hc.source_mem hr) hr.source_ne_root
    rw [hmove]
    refine { hwell with cwd_mem := ?_ }
    split_ifs with hcwd
    · -- the new working directory lies within the target, and so outside the source
      have hplace := hr.place_within h htarget (.inr h.cwd_mem) hcwd
      refine List.mem_filter.2 ⟨?_, ?_⟩
      · rw [hc.directories_eq]
        exact mem_directories_addDirectories.2 (.inl (List.mem_map_of_mem
          (mem_subtreeDirectories.2 ⟨h.cwd_mem, hcwd⟩)))
      · rw [hr.outside_source h htarget hplace.1 hplace.2, Bool.not_false]
    · refine List.mem_filter.2 ⟨?_, by simpa using hcwd⟩
      rw [hc.directories_eq]
      exact mem_directories_addDirectories.2 (.inr h.cwd_mem)

end WellFormed

end Store
end EditorShell

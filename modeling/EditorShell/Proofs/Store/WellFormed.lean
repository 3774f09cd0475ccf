import EditorShell.Proofs.Path.Below
import EditorShell.Proofs.Store.Edit
import EditorShell.Store.Check

/-!
# Operations keep stores well formed

That everything above a path is a directory follows from the parents alone
(`WellFormed.of_parent_mem`), so an operation has to answer for the parents of what it adds and for
the children of what it removes. Each operation on one path is settled here by the three ways in
which stores change: the files of a fixed set of directories (`WellFormed.of_files`), directories
that are added (`WellFormed.addDirectories`), and a directory that goes away with all it holds
(`WellFormed.without`).
-/

namespace EditorShell
namespace Store

variable {store done : Store} {path : String}

/-- **The check finds no fault in exactly the stores that are well formed,** as far as it looks: it
does not look at the form of the paths. -/
theorem violation?_eq_none_iff :
    store.violation? = none ↔
      Path.root ∈ store.directories ∧ store.cwd ∈ store.directories ∧
        (∀ p ∈ store.files.keys, p ∉ store.directories) ∧
        ∀ p, p ∈ store.files.keys ∨ p ∈ store.directories →
          ∀ a ∈ Path.ancestors p, a ∈ store.directories := by
  have hfiles : store.files.keys.find? store.isDirectory = none ↔
      ∀ p ∈ store.files.keys, p ∉ store.directories := by simp
  have horphans : (store.files.keys ++ store.directories).findSome? store.missingAncestor? = none ↔
      ∀ p, p ∈ store.files.keys ∨ p ∈ store.directories →
        ∀ a ∈ Path.ancestors p, a ∈ store.directories := by
    simp [missingAncestor?, or_imp, forall_and]
  rw [← hfiles, ← horphans, violation?]
  split_ifs with hroot hcwd
  · simp_all
  · simp_all
  · cases h : store.files.keys.find? store.isDirectory <;> simp_all

namespace WellFormed

theorem violation?_eq_none (h : WellFormed store) : store.violation? = none :=
  violation?_eq_none_iff.2 ⟨h.root_mem, h.cwd_mem, h.not_both, h.ancestor_mem⟩

theorem isCanonical_cwd (h : WellFormed store) : Path.IsCanonical store.cwd :=
  h.canonical _ (.inr h.cwd_mem)

theorem root_not_mem_keys (h : WellFormed store) : Path.root ∉ store.files.keys :=
  fun hmem => h.not_both _ hmem h.root_mem

theorem parent_mem (h : WellFormed store)
    (hp : path ∈ store.files.keys ∨ path ∈ store.directories) (hne : path ≠ Path.root) :
    Path.parent path ∈ store.directories := by
  refine h.ancestor_mem path hp _ ?_
  rw [Path.ancestors, if_neg hne]
  simp

/-- What holds something is a directory. -/
theorem mem_of_isBelow (h : WellFormed store)
    (hp : path ∈ store.files.keys ∨ path ∈ store.directories) {a : String}
    (ha : Path.IsCanonical a) (hbelow : Path.isBelow path a = true) : a ∈ store.directories :=
  h.ancestor_mem path hp a ((Path.mem_ancestors_iff (h.canonical path hp) ha).2 hbelow)

/-- A store is well formed if the parents are directories; what is above them follows. -/
theorem of_parent_mem (root_mem : Path.root ∈ store.directories)
    (cwd_mem : store.cwd ∈ store.directories)
    (not_both : ∀ p ∈ store.files.keys, p ∉ store.directories)
    (parent_mem : ∀ p, p ∈ store.files.keys ∨ p ∈ store.directories → p ≠ Path.root →
      Path.parent p ∈ store.directories)
    (canonical : ∀ p, p ∈ store.files.keys ∨ p ∈ store.directories → Path.IsCanonical p)
    (nodup : store.directories.Nodup) : WellFormed store where
  root_mem := root_mem
  cwd_mem := cwd_mem
  not_both := not_both
  ancestor_mem := by
    intro p hp
    have hcanonical := canonical p hp
    induction p, hcanonical using Path.IsCanonical.induction with
    | root => simp
    | child d n hd hn ih =>
      have hmem := parent_mem _ hp (Path.child_ne_root hd hn)
      rw [Path.parent_child hd hn] at hmem
      intro a ha
      rw [Path.ancestors_child hd hn, List.mem_append, List.mem_singleton] at ha
      rcases ha with ha | rfl
      · exact ih (.inr hmem) a ha
      · exact hmem
  canonical := canonical
  nodup := nodup

/-- The rules that a store has to obey, each of them about its entries one by one. -/
theorem iff_parent_mem :
    WellFormed store ↔
      Path.root ∈ store.directories ∧ store.cwd ∈ store.directories ∧
        (∀ p ∈ store.files.keys, p ∉ store.directories) ∧
        (∀ p ∈ store.files.keys ++ store.directories, p ≠ Path.root →
          Path.parent p ∈ store.directories) ∧
        (∀ p ∈ store.files.keys ++ store.directories, Path.IsCanonical p) ∧
        store.directories.Nodup := by
  simp only [List.mem_append]
  constructor
  · intro h
    exact ⟨h.root_mem, h.cwd_mem, h.not_both, fun _ => h.parent_mem, h.canonical, h.nodup⟩
  · rintro ⟨hroot, hcwd, hboth, hparent, hcanonical, hnodup⟩
    exact of_parent_mem hroot hcwd hboth hparent hcanonical hnodup

instance : Decidable (WellFormed store) := decidable_of_iff _ iff_parent_mem.symm

/-! ## Three ways to change a store -/

/-- The directories stay, and each new file has its parent among them. -/
theorem of_files (h : WellFormed store) (hdirs : done.directories = store.directories)
    (hcwd : done.cwd = store.cwd)
    (hfiles : ∀ p ∈ done.files.keys, p ∈ store.files.keys ∨
      p ∉ store.directories ∧ Path.parent p ∈ store.directories ∧ Path.IsCanonical p) :
    WellFormed done := by
  refine of_parent_mem ?_ ?_ ?_ ?_ ?_ ?_
  · exact hdirs ▸ h.root_mem
  · exact hdirs ▸ hcwd ▸ h.cwd_mem
  · intro p hp
    rw [hdirs]
    rcases hfiles p hp with hold | ⟨hnew, -⟩
    · exact h.not_both p hold
    · exact hnew
  · intro p hp hne
    rw [hdirs] at hp ⊢
    rcases hp with hp | hp
    · rcases hfiles p hp with hold | ⟨-, hparent, -⟩
      · exact h.parent_mem (.inl hold) hne
      · exact hparent
    · exact h.parent_mem (.inr hp) hne
  · intro p hp
    rw [hdirs] at hp
    rcases hp with hp | hp
    · rcases hfiles p hp with hold | ⟨-, -, hcanonical⟩
      · exact h.canonical p (.inl hold)
      · exact hcanonical
    · exact h.canonical p (.inr hp)
  · exact hdirs ▸ h.nodup

/-- Each new directory is no file and has its parent among the directories, new ones included. -/
theorem addDirectories (h : WellFormed store) {paths : List String}
    (hnew : ∀ d ∈ paths, Path.IsCanonical d ∧ d ∉ store.files.keys ∧
      (d ≠ Path.root → Path.parent d ∈ paths ∨ Path.parent d ∈ store.directories)) :
    WellFormed (store.addDirectories paths) := by
  refine of_parent_mem ?_ ?_ ?_ ?_ ?_ (nodup_addDirectories h.nodup) <;>
    simp only [mem_directories_addDirectories, files_addDirectories, cwd_addDirectories]
  · exact .inr h.root_mem
  · exact .inr h.cwd_mem
  · rintro p hp (hmem | hmem)
    · exact (hnew p hmem).2.1 hp
    · exact h.not_both p hp hmem
  · rintro p (hp | hp | hp) hne
    · exact .inr (h.parent_mem (.inl hp) hne)
    · exact (hnew p hp).2.2 hne
    · exact .inr (h.parent_mem (.inr hp) hne)
  · rintro p (hp | hp | hp)
    · exact h.canonical p (.inl hp)
    · exact (hnew p hp).1
    · exact h.canonical p (.inr hp)

/-- A directory other than the root goes away with all it holds. -/
theorem without (h : WellFormed store) (hdir : path ∈ store.directories)
    (hne : path ≠ Path.root) : WellFormed (store.without path) := by
  have hpath := h.canonical path (.inr hdir)
  -- what stays does not lie within `path`, so neither does its parent
  have hstay : ∀ p, p ∈ store.files.keys ∨ p ∈ store.directories → p ≠ Path.root →
      Path.isWithin p path = false → Path.isWithin (Path.parent p) path = false := by
    intro p hp hroot hout
    have hcanonical := h.canonical p hp
    rw [← Bool.not_eq_true] at hout ⊢
    exact fun hin => hout <| Path.isWithin_trans hcanonical (Path.isCanonical_parent hcanonical)
      hpath (Path.isWithin_iff.2 (.inr (Path.isBelow_parent hcanonical hroot))) hin
  have hroot : Path.isWithin Path.root path = false := by
    rw [← Bool.not_eq_true, Path.isWithin_iff, Path.isBelow_root_left hpath]
    simpa using hne.symm
  have hfile : ∀ p ∈ store.files.keys, Path.isBelow p path = false →
      Path.isWithin p path = false := by
    intro p hp hbelow
    rw [← Bool.not_eq_true, Path.isWithin_iff, hbelow]
    rintro (rfl | habsurd)
    · exact h.not_both p hp hdir
    · cases habsurd
  refine of_parent_mem ?_ ?_ ?_ ?_ ?_ (h.nodup.filter _) <;>
    simp only [Store.without, mem_keys_filesOutside, List.mem_filter, Bool.not_eq_true']
  · exact ⟨h.root_mem, hroot⟩
  · split_ifs with hcwd
    · exact ⟨h.parent_mem (.inr hdir) hne, Path.isWithin_eq_false_of_isBelow hpath
        (Path.isCanonical_parent hpath) (Path.isBelow_parent hpath hne)⟩
    · exact ⟨h.cwd_mem, by simpa using hcwd⟩
  · rintro p ⟨hp, -⟩ ⟨hdir, -⟩
    exact h.not_both p hp hdir
  · rintro p (⟨hp, hout⟩ | ⟨hp, hout⟩) hne
    · exact ⟨h.parent_mem (.inl hp) hne, hstay p (.inl hp) hne (hfile p hp hout)⟩
    · exact ⟨h.parent_mem (.inr hp) hne, hstay p (.inr hp) hne hout⟩
  · rintro p (⟨hp, -⟩ | ⟨hp, -⟩)
    · exact h.canonical p (.inl hp)
    · exact h.canonical p (.inr hp)

/-! ## Operations on one path -/

theorem changeDirectory (h : WellFormed store) (hok : store.changeDirectory path = .ok done) :
    WellFormed done := by
  obtain ⟨hmem, rfl⟩ := changeDirectory_eq_ok_iff.1 hok
  exact { h with cwd_mem := hmem }

theorem writeFile (h : WellFormed store) (hpath : Path.IsCanonical path) {content : String}
    {append : Bool} {mimeType : Option String}
    (hok : store.writeFile path content append mimeType = .ok done) : WellFormed done := by
  obtain ⟨⟨-, hfree, hparent⟩, rfl⟩ := writeFile_eq_ok_iff.1 hok
  refine h.of_files rfl rfl fun p hp => ?_
  rcases mem_keys_writeIn.1 hp with hold | rfl
  · exact .inl hold
  · exact .inr ⟨hfree, hparent, hpath⟩

theorem touch (h : WellFormed store) (hpath : Path.IsCanonical path)
    (hok : store.touch path = .ok done) : WellFormed done := by
  unfold Store.touch at hok
  split_ifs at hok
  · cases hok
    exact h
  · exact h.writeFile hpath hok

theorem deleteFile (h : WellFormed store) (hok : store.deleteFile path = .ok done) :
    WellFormed done := by
  obtain ⟨-, rfl⟩ := deleteFile_eq_ok_iff.1 hok
  exact h.of_files rfl rfl fun p hp => .inl (Table.mem_keys_erase.1 hp).1

theorem deleteDirectory (h : WellFormed store) {recursive : Bool}
    (hok : store.deleteDirectory path recursive = .ok done) : WellFormed done := by
  obtain ⟨⟨hne, -, hdir, -⟩, rfl⟩ := deleteDirectory_eq_ok_iff.1 hok
  exact h.without hdir hne

theorem createDirectory (h : WellFormed store) (hpath : Path.IsCanonical path) {parents : Bool}
    (hok : store.createDirectory path parents = .ok done) : WellFormed done := by
  obtain ⟨hfile, ⟨-, rfl⟩ | ⟨hnot, hmissing, rfl⟩⟩ := createDirectory_eq_ok hok
  · exact h
  have hroot : path ≠ Path.root := fun he => hnot (he ▸ h.root_mem)
  -- the parent of an ancestor of `path`, and of `path` itself, is an ancestor of `path`
  have hup : ∀ d, d ≠ Path.root → d = path ∨ d ∈ Path.ancestors path →
      Path.parent d ∈ Path.ancestors path := by
    intro d hne hd
    have hcanonical : Path.IsCanonical d :=
      hd.elim (· ▸ hpath) (Path.isCanonical_of_mem_ancestors hpath)
    have hparent := Path.isCanonical_parent hcanonical
    have hbelow := Path.isBelow_parent hcanonical hne
    rw [Path.mem_ancestors_iff hpath hparent]
    rcases hd with rfl | hd
    · exact hbelow
    · have habove := (Path.mem_ancestors_iff hpath hcanonical).1 hd
      exact Path.isBelow_trans hpath hcanonical hparent habove hbelow
  refine h.addDirectories fun d hd => ?_
  have hwhere : d = path ∨ d ∈ Path.ancestors path := by
    rcases List.mem_append.1 hd with hd | hd
    · exact .inr (List.mem_filter.1 hd).1
    · exact .inl (List.mem_singleton.1 hd)
  refine ⟨hwhere.elim (· ▸ hpath) (Path.isCanonical_of_mem_ancestors hpath), ?_, fun hne => ?_⟩
  · rcases List.mem_append.1 hd with hd | hd
    · exact hmissing d (List.mem_filter.1 hd).1 (by simpa using (List.mem_filter.1 hd).2)
    · rwa [List.mem_singleton.1 hd]
  · by_cases hthere : Path.parent d ∈ store.directories
    · exact .inr hthere
    · refine .inl (List.mem_append_left _ (List.mem_filter.2 ⟨hup d hne hwhere, ?_⟩))
      simpa using hthere

theorem copyFile (h : WellFormed store) {source target : String}
    (htarget : Path.IsCanonical target) (hok : store.copyFile source target = .ok done) :
    WellFormed done := by
  obtain ⟨file, -, hok⟩ := copyFile_eq_ok_iff.1 hok
  split_ifs at hok
  · exact hok ▸ h
  · exact h.writeFile htarget hok

theorem setNodeId (h : WellFormed store) (path : String) (nodeId : Option String) :
    WellFormed (store.setNodeId path nodeId) :=
  h.of_files (by simp) (by simp) fun _ hp => .inl (mem_keys_setNodeId.1 hp)

theorem carryNodeId (h : WellFormed store) (source target : String) :
    WellFormed (store.carryNodeId source target) := by
  obtain heq | ⟨nodeId, heq⟩ := carryNodeId_eq store source target
  · rwa [heq]
  · rw [heq]
    exact h.setNodeId target nodeId

theorem moveFile (h : WellFormed store) {source target : String}
    (htarget : Path.IsCanonical target) : WellFormed (store.moveFile source target).1 := by
  unfold Store.moveFile
  split
  · exact h
  next copied hcopied =>
    have hcopy := h.copyFile htarget hcopied
    split_ifs
    · exact hcopy
    · have hcarried := hcopy.carryNodeId source target
      cases hdelete : (copied.carryNodeId source target).deleteFile source with
      | error error => simpa [attempt, hdelete] using hcarried
      | ok removed => simpa [attempt, hdelete] using hcarried.deleteFile hdelete

theorem clear (store : Store) : WellFormed store.clear :=
  { wellFormed_empty with }

end WellFormed
end Store
end EditorShell

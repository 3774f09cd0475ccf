import EditorShell.Proofs.Path.Prefix
import EditorShell.Proofs.Store.WellFormed

/-!
# Deleting files and directories

What a deletion takes away lies within the path that is deleted (`loses_deleteFile`,
`loses_deleteDirectory`), and a working directory that goes away with it is replaced by the nearest
directory above it that is left (`StaysNear.deleteDirectory`). `deleteDirectory_pruned` says all of
it for a directory: when it can be deleted, and what is left then, path by path. A path lies within
the directory if its segments begin with those of the directory, so paths that merely begin with the
same characters are spared.
-/

namespace EditorShell
namespace Store

variable {gone gone' : String → Prop} {store middle done : Store} {path c : String}

/-! ## What goes away -/

/-- `done` is `store` without some of its directories and files, all of them at paths that are
`gone`. Whatever else there is has kept its entry. -/
structure Loses (gone : String → Prop) (store done : Store) : Prop where
  mem_of_mem : ∀ d ∈ done.directories, d ∈ store.directories
  get?_of_get? : ∀ p file, done.files.get? p = some file → store.files.get? p = some file
  mem_of_spared : ∀ d ∈ store.directories, ¬gone d → d ∈ done.directories
  get?_of_spared : ∀ p, ¬gone p → done.files.get? p = store.files.get? p

namespace Loses

theorem refl (gone : String → Prop) (store : Store) : store.Loses gone store :=
  ⟨fun _ => id, fun _ _ => id, fun _ hd _ => hd, fun _ _ => rfl⟩

theorem mono (h : store.Loses gone done) (hgone : ∀ p, gone p → gone' p) :
    store.Loses gone' done where
  mem_of_mem := h.mem_of_mem
  get?_of_get? := h.get?_of_get?
  mem_of_spared d hd hnot := h.mem_of_spared d hd fun hg => hnot (hgone d hg)
  get?_of_spared p hnot := h.get?_of_spared p fun hg => hnot (hgone p hg)

theorem trans (h : store.Loses gone middle) (h' : middle.Loses gone done) :
    store.Loses gone done where
  mem_of_mem d hd := h.mem_of_mem d (h'.mem_of_mem d hd)
  get?_of_get? p file hp := h.get?_of_get? p file (h'.get?_of_get? p file hp)
  mem_of_spared d hd hnot := h'.mem_of_spared d (h.mem_of_spared d hd hnot) hnot
  get?_of_spared p hnot := (h'.get?_of_spared p hnot).trans (h.get?_of_spared p hnot)

end Loses

theorem loses_deleteFile (h : store.deleteFile path = .ok done) :
    store.Loses (Path.isWithin · path = true) done := by
  obtain ⟨-, rfl⟩ := deleteFile_eq_ok_iff.1 h
  refine ⟨fun _ => id, fun p file hp => ?_, fun _ hd _ => hd, fun p hnot => ?_⟩
  · rw [Table.get?_erase] at hp
    split_ifs at hp
    exact hp
  · have hne : p ≠ path := by
      rintro rfl
      exact hnot (Path.isWithin_self p)
    rw [Table.get?_erase, if_neg hne]

theorem loses_deleteDirectory {recursive : Bool}
    (h : store.deleteDirectory path recursive = .ok done) :
    store.Loses (Path.isWithin · path = true) done := by
  obtain ⟨-, rfl⟩ := deleteDirectory_eq_ok_iff.1 h
  refine ⟨fun d hd => List.mem_of_mem_filter hd, fun p file hp => ?_, fun d hd hnot => ?_,
    fun p hnot => ?_⟩
  · simp only [without, get?_filesOutside] at hp
    split_ifs at hp
    exact hp
  · exact List.mem_filter.2 ⟨hd, by simpa using hnot⟩
  · simp only [without, get?_filesOutside]
    rw [if_neg fun hbelow => hnot (Path.isWithin_of_isBelow hbelow)]

/-! ## The working directory -/

/-- The working directory is the lowest directory that `c` lies within. -/
structure StaysNear (c : String) (store : Store) : Prop where
  mem : store.cwd ∈ store.directories
  holds : Path.isWithin c store.cwd = true
  lowest : ∀ d ∈ store.directories, Path.isWithin c d = true → Path.isWithin store.cwd d = true

theorem WellFormed.staysNear_cwd (h : WellFormed store) : store.StaysNear store.cwd :=
  ⟨h.cwd_mem, Path.isWithin_self _, fun _ _ hd => hd⟩

/-- The parent of a directory that goes away is near to what was near to the directory. -/
theorem StaysNear.deleteDirectory (hnear : store.StaysNear c) (h : WellFormed store)
    (hc : Path.IsCanonical c) {recursive : Bool}
    (hok : store.deleteDirectory path recursive = .ok done) : done.StaysNear c := by
  suffices hwhere : Path.isWithin c done.cwd = true ∧
      ∀ d ∈ done.directories, Path.isWithin c d = true → Path.isWithin done.cwd d = true from
    ⟨(h.deleteDirectory hok).cwd_mem, hwhere.1, hwhere.2⟩
  obtain ⟨⟨hne, -, hdir, -⟩, rfl⟩ := deleteDirectory_eq_ok_iff.1 hok
  have hpath := h.canonical path (.inr hdir)
  by_cases hin : Path.isWithin store.cwd path = true
  · have hcwd : (store.without path).cwd = Path.parent path := if_pos hin
    have hcpath := Path.isWithin_trans hc h.isCanonical_cwd hpath hnear.holds hin
    rw [hcwd]
    constructor
    · have habove := Path.isWithin_of_isBelow (Path.isBelow_parent hpath hne)
      exact Path.isWithin_trans hc hpath (Path.isCanonical_parent hpath) hcpath habove
    · -- what holds `c` and is left lies above `path`
      intro d hd hcd
      obtain ⟨hd, hout⟩ := List.mem_filter.1 hd
      simp only [Bool.not_eq_eq_eq_not, Bool.not_true] at hout
      have hcanonical := h.canonical d (.inr hd)
      obtain hpd | hdp := Path.isWithin_total hc hpath hcanonical hcpath hcd
      · refine Path.isWithin_parent hpath hcanonical (Path.isBelow_iff.2 ⟨hpd, ?_⟩)
        rintro rfl
        simp at hout
      · simp [hdp] at hout
  · have hcwd : (store.without path).cwd = store.cwd := if_neg hin
    rw [hcwd]
    exact ⟨hnear.holds, fun d hd => hnear.lowest d (List.mem_of_mem_filter hd)⟩

/-! ## A directory with all it holds -/

/-- What is left of a store when the directory `path` has gone away with all it held. Any other path
keeps its entry. The working directory is the longest of the paths from the old one upwards that is
still a directory. -/
structure Pruned (store : Store) (path : String) (done : Store) : Prop where
  mem_directories_iff : ∀ d, d ∈ done.directories ↔
    d ∈ store.directories ∧ ¬Path.segments path <+: Path.segments d
  get?_eq : ∀ p, done.files.get? p =
    if Path.segments path <+: Path.segments p then none else store.files.get? p
  cwd_mem : done.cwd ∈ done.directories
  cwd_upwards : done.cwd = store.cwd ∨ done.cwd ∈ Path.ancestors store.cwd
  cwd_longest : ∀ p, p = store.cwd ∨ p ∈ Path.ancestors store.cwd → p ∈ done.directories →
    p ≠ done.cwd → p.length < done.cwd.length

/-- A directory holds nothing iff it is the only path within it. -/
theorem below_eq_nil_iff (h : WellFormed store) (hdir : path ∈ store.directories) :
    store.filesBelow path = [] ∧ store.directoriesBelow path = [] ↔
      ∀ p, p ∈ store.directories ∨ p ∈ store.files.keys →
        Path.segments path <+: Path.segments p → p = path := by
  have hpath := h.canonical path (.inr hdir)
  have hbelow : store.filesBelow path = [] ∧ store.directoriesBelow path = [] ↔
      ∀ p, p ∈ store.directories ∨ p ∈ store.files.keys → Path.isBelow p path = false := by
    simp only [filesBelow, directoriesBelow, List.filter_eq_nil_iff, Bool.not_eq_true, or_imp,
      forall_and]
    exact and_comm
  rw [hbelow]
  refine forall₂_congr fun p hp => ?_
  rw [← Path.isWithin_iff_segments (h.canonical p hp.symm) hpath, ← Bool.not_eq_true,
    Path.isBelow_iff, not_and, not_not]

/-- The nearest directory is the longest of those that the path lies within. -/
theorem StaysNear.longest (hnear : done.StaysNear c) (h : WellFormed done)
    (hc : Path.IsCanonical c) :
    (done.cwd = c ∨ done.cwd ∈ Path.ancestors c) ∧
      ∀ p, p = c ∨ p ∈ Path.ancestors c → p ∈ done.directories → p ≠ done.cwd →
        p.length < done.cwd.length := by
  refine ⟨(Path.isWithin_iff_eq_or_mem_ancestors hc h.isCanonical_cwd).1 hnear.holds,
    fun p hp hmem hne => ?_⟩
  have hcanonical := h.canonical p (.inr hmem)
  have hin := hnear.lowest p hmem ((Path.isWithin_iff_eq_or_mem_ancestors hc hcanonical).2 hp)
  exact Path.length_lt_of_isBelow h.isCanonical_cwd hcanonical
    (Path.isBelow_iff.2 ⟨hin, hne.symm⟩)

/-- **A directory is deleted with exactly what it holds.** It can be deleted if it is a directory
other than the root and, unless the deletion is `recursive`, holds nothing. -/
theorem deleteDirectory_pruned (h : WellFormed store) (path : String) (recursive : Bool) :
    ((∃ done, store.deleteDirectory path recursive = .ok done) ↔
      path ∈ store.directories ∧ path ≠ Path.root ∧
        (recursive = false → ∀ p, p ∈ store.directories ∨ p ∈ store.files.keys →
          Path.segments path <+: Path.segments p → p = path)) ∧
    ∀ done, store.deleteDirectory path recursive = .ok done → store.Pruned path done := by
  constructor
  · simp only [deleteDirectory_eq_ok_iff, exists_and_left, exists_eq', and_true]
    constructor
    · rintro ⟨hroot, -, hdir, hempty⟩
      refine ⟨hdir, hroot, fun hplain => ?_⟩
      rw [← below_eq_nil_iff h hdir]
      exact hempty.resolve_right (by simp [hplain])
    · rintro ⟨hdir, hroot, hempty⟩
      refine ⟨hroot, fun hfile => h.not_both path hfile hdir, hdir, ?_⟩
      cases recursive with
      | false => exact .inl ((below_eq_nil_iff h hdir).2 (hempty rfl))
      | true => exact .inr rfl
  · intro done hok
    have hwell := h.deleteDirectory hok
    have hnear := h.staysNear_cwd.deleteDirectory h h.isCanonical_cwd hok
    obtain ⟨hupwards, hlongest⟩ := hnear.longest hwell h.isCanonical_cwd
    obtain ⟨⟨-, hfile, hdir, -⟩, rfl⟩ := deleteDirectory_eq_ok_iff.1 hok
    have hpath := h.canonical path (.inr hdir)
    refine ⟨fun d => ?_, fun p => ?_, hnear.mem, hupwards, hlongest⟩
    · rw [without, List.mem_filter, Bool.not_eq_true']
      refine and_congr_right fun hd => ?_
      rw [← Path.isWithin_iff_segments (h.canonical d (.inr hd)) hpath, Bool.not_eq_true]
    · rw [without, get?_filesOutside]
      by_cases hp : p ∈ store.files.keys
      · -- the directory itself is no file, so a file within it lies below it
        have hne : p ≠ path := fun he => hfile (he ▸ hp)
        have hiff : Path.isBelow p path = true ↔ Path.segments path <+: Path.segments p := by
          rw [← Path.isWithin_iff_segments (h.canonical p (.inl hp)) hpath, Path.isBelow_iff]
          exact and_iff_left hne
        simp only [hiff]
      · have hnone := Table.get?_eq_none_iff.2 hp
        split_ifs <;> simp [hnone]

/-- The working directory lies two directories deep in `/a`, and beside it are paths that merely
begin like it. -/
def lookalikes : Store where
  directories := ["/", "/a", "/a/b", "/a/b/c", "/ab"]
  files := Table.ofList [("/a/b/x", ⟨"1", none, some "n"⟩), ("/a.x", ⟨"2", some "t", none⟩)]
  cwd := "/a/b/c"
  revision := 6

theorem wellFormed_lookalikes : lookalikes.WellFormed := by decide

theorem deleteDirectory_pruned_lookalikes :
    (∃ done, lookalikes.deleteDirectory "/ab" false = .ok done) ∧
      (¬∃ done, lookalikes.deleteDirectory "/a/b" false = .ok done) ∧
      ∃ done, lookalikes.deleteDirectory "/a/b" true = .ok done ∧
        lookalikes.Pruned "/a/b" done := by
  have hempty : ∀ p ∈ lookalikes.directories ++ lookalikes.files.keys,
      Path.segments "/ab" <+: Path.segments p → p = "/ab" := by decide +kernel
  refine ⟨?_, fun hok => ?_, ?_⟩
  · refine (deleteDirectory_pruned wellFormed_lookalikes "/ab" false).1.2
      ⟨by decide, by decide, fun _ p hp => hempty p (List.mem_append.2 hp)⟩
  · have hfull := ((deleteDirectory_pruned wellFormed_lookalikes "/a/b" false).1.1 hok).2.2 rfl
      "/a/b/x" (by decide) (by decide +kernel)
    exact absurd hfull (by decide)
  · obtain ⟨hiff, hpruned⟩ := deleteDirectory_pruned wellFormed_lookalikes "/a/b" true
    obtain ⟨done, hdone⟩ := hiff.2 ⟨by decide, by decide, by simp⟩
    exact ⟨done, hdone, hpruned done hdone⟩

end Store
end EditorShell

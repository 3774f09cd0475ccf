import EditorShell.Builtin.Listing
import EditorShell.Proofs.Path.Relative
import EditorShell.Proofs.Store.Contents
import EditorShell.Proofs.Store.WellFormed

/-!
# The outline of a directory

A tree is drawn by going from directory to directory, each with the children that are shown. What
is met on the way, in order, is the `outline`. In a well-formed store it can be said without going
anywhere: it has what lives below the directory, hidden names left out unless they are asked for
(`mem_outline_iff`), in the lexicographic order of segments (`pairwise_outline`).
-/

namespace EditorShell
namespace Builtin

variable {store : Store} {hidden : Bool} {d p : String} {c : Child} {found : Store.Found}

/-- What a tree shows below a directory, in the order in which it is met. -/
def outline (store : Store) (hidden : Bool) (directory : String) : List Store.Found :=
  (shown store hidden directory).attach.flatMap fun ⟨child, _h⟩ =>
    child.found ::
      if _hdir : child.isDirectory = true then outline store hidden child.path else []
termination_by depthBelow store directory
decreasing_by exact depthBelow_lt (List.mem_of_mem_filter _h) _hdir

/-- What a tree shows for one child: the child, and below it what it holds. -/
def branch (store : Store) (hidden : Bool) (child : Child) : List Store.Found :=
  child.found :: if child.isDirectory then outline store hidden child.path else []

theorem outline_eq (store : Store) (hidden : Bool) (d : String) :
    outline store hidden d = (shown store hidden d).flatMap (branch store hidden) := by
  have hbranch : branch store hidden = fun c =>
      c.found :: if c.isDirectory then outline store hidden c.path else [] := rfl
  rw [outline, hbranch]
  simp

theorem mem_branch : found ∈ branch store hidden c ↔
    found = c.found ∨ c.isDirectory = true ∧ found ∈ outline store hidden c.path := by
  cases hdir : c.isDirectory <;> simp [branch, hdir]

/-! ## What is shown -/

/-- The path shows: no segment of it after those of the directory starts with a point, or names
that do are asked for. -/
def shows (hidden : Bool) (directory path : String) : Bool :=
  (Path.relative directory path).all fun s => hidden || !Text.startsWith s "."

@[simp] theorem shows_true (d p : String) : shows true d p = true := by simp [shows]

@[simp] theorem shows_self (hidden : Bool) (d : String) : shows hidden d d = true := by
  simp [shows]

theorem shows_of_isWithin_child {n : String} (hp : Path.IsCanonical p) (hd : Path.IsCanonical d)
    (hn : Path.IsSegment n) (h : Path.isWithin p (Path.child d n) = true) :
    shows hidden d p =
      ((hidden || !Text.startsWith n ".") && shows hidden (Path.child d n) p) := by
  rw [shows, Path.relative_of_isWithin_child hp hd hn h, List.all_cons, shows]

/-- `drawn` lists what lives below `r` and is visible: each path once, a directory before what it
holds, and what has one parent in the order of the names. -/
structure IsOutline (store : Store) (r : String) (visible : String → Prop)
    (drawn : List Store.Found) : Prop where
  mem_iff : ∀ found, found ∈ drawn ↔
    store.Has found ∧ Path.isBelow found.1 r = true ∧ visible found.1
  nodup : (drawn.map (·.1)).Nodup
  contents_after : drawn.Pairwise fun a b => Path.isBelow a.1 b.1 = false
  siblings : drawn.Pairwise fun a b =>
    Path.parent a.1 = Path.parent b.1 → Path.name a.1 < Path.name b.1

theorem mem_directories_of_mem_shown (hc : c ∈ shown store hidden d)
    (hdir : c.isDirectory = true) : c.path ∈ store.directories :=
  (mem_of_mem_children (List.mem_of_mem_filter hc) hdir).1

section WellFormed

variable (h : store.WellFormed)
include h

/-- The children that are shown, by their names. -/
theorem mem_shown (hc : c ∈ shown store hidden d) :
    Path.IsSegment c.name ∧ c.path = Path.child d c.name ∧ store.Has c.found ∧
      (hidden || !Text.startsWith c.name ".") = true := by
  obtain ⟨hchild, hshown⟩ := List.mem_filter.1 hc
  obtain ⟨hn, hpath⟩ := h.path_of_mem_children hchild
  have hd := Store.mem_directories_of_mem_children hchild
  exact ⟨hn, hpath, ((h.mem_children_iff hd).1 ⟨c, hchild, rfl⟩).2.2, hshown⟩

/-- What lives within a child lives within one that is shown, if its name is. -/
theorem exists_mem_shown {n : String} (hd : d ∈ store.directories) (hn : Path.IsSegment n)
    (hfound : store.Has found) (hin : Path.isWithin found.1 (Path.child d n) = true)
    (hname : (hidden || !Text.startsWith n ".") = true) :
    ∃ c ∈ shown store hidden d, c.path = Path.child d n := by
  have hdir := h.canonical d (.inr hd)
  have hchild := Path.isCanonical_child hdir hn
  have hlives : ∃ isDirectory, store.Has (Path.child d n, isDirectory) := by
    rcases Path.isWithin_iff.1 hin with heq | hbelow
    · exact ⟨found.2, heq ▸ hfound⟩
    · exact ⟨true, h.mem_of_isBelow hfound.mem hchild hbelow⟩
  obtain ⟨isDirectory, hlives⟩ := hlives
  obtain ⟨c, hc, heq⟩ := (h.mem_children_iff hd).2
    ⟨Path.child_ne_root hdir hn, Path.parent_child hdir hn, hlives⟩
  have hpath : c.path = Path.child d n := congrArg Prod.fst heq
  refine ⟨c, List.mem_filter.2 ⟨hc, ?_⟩, hpath⟩
  rwa [Store.name_of_mem_children hc, hpath, Path.name_child hdir hn]

/-- What lives within a child that is shown lives at the child or below a directory. -/
theorem mem_branch_iff (hhas : store.Has c.found)
    (hbelow : c.isDirectory = true → (found ∈ outline store hidden c.path ↔
      store.Has found ∧ Path.isBelow found.1 c.path = true ∧
        shows hidden c.path found.1 = true)) :
    found ∈ branch store hidden c ↔
      store.Has found ∧ Path.isWithin found.1 c.path = true ∧
        shows hidden c.path found.1 = true := by
  rw [mem_branch, Path.isWithin_iff]
  constructor
  · rintro (rfl | ⟨hdir, hmem⟩)
    · exact ⟨hhas, .inl rfl, shows_self _ _⟩
    · obtain ⟨hfound, hin, hshows⟩ := (hbelow hdir).1 hmem
      exact ⟨hfound, .inr hin, hshows⟩
  · rintro ⟨hfound, heq | hin, hshows⟩
    · exact .inl (h.eq_of_has hfound hhas heq)
    · -- what holds something is no file
      have hfolder : store.Has (c.path, true) :=
        h.mem_of_isBelow hfound.mem (h.canonical _ hhas.mem) hin
      have hdir : c.isDirectory = true := congrArg Prod.snd (h.eq_of_has hhas hfolder rfl)
      exact .inr ⟨hdir, (hbelow hdir).2 ⟨hfound, hin, hshows⟩⟩

/-- **The outline has what lives below the directory and shows.** -/
theorem mem_outline_iff (hd : d ∈ store.directories) :
    found ∈ outline store hidden d ↔
      store.Has found ∧ Path.isBelow found.1 d = true ∧ shows hidden d found.1 = true := by
  induction d using outline.induct store hidden with
  | case1 d ih =>
    have hdir := h.canonical d (.inr hd)
    have hbranch : ∀ c ∈ shown store hidden d, found ∈ branch store hidden c ↔
        store.Has found ∧ Path.isWithin found.1 c.path = true ∧
          shows hidden c.path found.1 = true := by
      intro c hc
      obtain ⟨-, -, hhas, -⟩ := mem_shown h hc
      exact mem_branch_iff h hhas fun hdir =>
        ih c hc hdir (mem_directories_of_mem_shown hc hdir)
    rw [outline_eq, List.mem_flatMap]
    constructor
    · rintro ⟨c, hc, hmem⟩
      obtain ⟨hn, hpath, -, hname⟩ := mem_shown h hc
      obtain ⟨hfound, hin, hshows⟩ := (hbranch c hc).1 hmem
      have hp := h.canonical _ hfound.mem
      rw [hpath] at hin hshows
      refine ⟨hfound, Path.isBelow_of_isWithin_child hp hdir hn hin, ?_⟩
      rw [shows_of_isWithin_child hp hdir hn hin, hname, hshows, Bool.and_self]
    · rintro ⟨hfound, hbelow, hshows⟩
      have hp := h.canonical _ hfound.mem
      obtain ⟨n, hn, hin⟩ := Path.exists_child_of_isBelow hp hdir hbelow
      rw [shows_of_isWithin_child hp hdir hn hin, Bool.and_eq_true] at hshows
      obtain ⟨c, hc, hpath⟩ := exists_mem_shown h hd hn hfound hin hshows.1
      rw [← hpath] at hin hshows
      exact ⟨c, hc, (hbranch c hc).2 ⟨hfound, hin, hshows.2⟩⟩

/-- What is shown for a child lives within it. -/
theorem isWithin_of_mem_branch (hc : c ∈ shown store hidden d)
    (hfound : found ∈ branch store hidden c) :
    Path.IsCanonical found.1 ∧ Path.isWithin found.1 (Path.child d c.name) = true := by
  obtain ⟨-, hpath, hhas, -⟩ := mem_shown h hc
  rw [← hpath]
  rcases mem_branch.1 hfound with rfl | ⟨hdir, hmem⟩
  · exact ⟨h.canonical _ hhas.mem, Path.isWithin_self _⟩
  · have hfolder := mem_directories_of_mem_shown hc hdir
    obtain ⟨hfound, hbelow, -⟩ := (mem_outline_iff h hfolder).1 hmem
    exact ⟨h.canonical _ hfound.mem, Path.isWithin_of_isBelow hbelow⟩

/-- **The outline is in the lexicographic order of segments.** -/
theorem pairwise_outline (hd : d ∈ store.directories) :
    (outline store hidden d).Pairwise fun a b => Path.segments a.1 < Path.segments b.1 := by
  induction d using outline.induct store hidden with
  | case1 d ih =>
    rw [outline_eq, List.pairwise_flatMap]
    constructor
    · -- a directory comes before what it holds
      intro c hc
      cases hdir : c.isDirectory with
      | false => simp [branch, hdir]
      | true =>
        have hfolder := mem_directories_of_mem_shown hc hdir
        rw [branch, if_pos hdir, List.pairwise_cons]
        refine ⟨fun found hmem => ?_, ih c hc hdir hfolder⟩
        obtain ⟨hfound, hbelow, -⟩ := (mem_outline_iff h hfolder).1 hmem
        exact Path.segments_lt_of_isBelow (h.canonical _ hfound.mem)
          (h.canonical _ (.inr hfolder)) hbelow
    · -- what one child holds comes before what a later one holds
      refine ((h.pairwise_children d).filter _).imp_of_mem fun {a b} ha hb hlt p hp q hq => ?_
      obtain ⟨hp, hpa⟩ := isWithin_of_mem_branch h ha hp
      obtain ⟨hq, hqb⟩ := isWithin_of_mem_branch h hb hq
      exact Path.segments_lt_of_isWithin_child hp hq (h.canonical d (.inr hd)) (mem_shown h ha).1
        (mem_shown h hb).1 hpa hqb hlt

/-- Each path is in the outline once. -/
theorem nodup_outline (hd : d ∈ store.directories) :
    ((outline store hidden d).map (·.1)).Nodup := by
  refine List.pairwise_map.2 ((pairwise_outline h hd).imp fun {a b} hlt => ?_)
  rintro (heq : a.1 = b.1)
  exact lt_irrefl _ (heq ▸ hlt)

/-- **The outline lists what shows below a directory.** -/
theorem isOutline_outline (hd : d ∈ store.directories) {visible : String → Prop}
    (hvisible : ∀ p, shows hidden d p = true ↔ visible p) :
    IsOutline store d visible (outline store hidden d) := by
  have hdir := h.canonical d (.inr hd)
  have hpath : ∀ found ∈ outline store hidden d,
      Path.IsCanonical found.1 ∧ found.1 ≠ Path.root := by
    intro found hfound
    obtain ⟨hhas, hbelow, -⟩ := (mem_outline_iff h hd).1 hfound
    refine ⟨h.canonical _ hhas.mem, fun hroot => ?_⟩
    rw [hroot, Path.isBelow_root_left hdir] at hbelow
    cases hbelow
  refine ⟨fun found => ?_, nodup_outline h hd, ?_, ?_⟩
  · rw [mem_outline_iff h hd, hvisible]
  · refine (pairwise_outline h hd).imp_of_mem fun {a b} ha hb hlt => ?_
    rw [← Bool.not_eq_true]
    intro hbelow
    exact lt_asymm hlt (Path.segments_lt_of_isBelow (hpath a ha).1 (hpath b hb).1 hbelow)
  · refine (pairwise_outline h hd).imp_of_mem fun {a b} ha hb hlt hparent => ?_
    exact Path.name_lt_name (hpath a ha).1 (hpath b hb).1 (hpath a ha).2 (hpath b hb).2 hparent hlt

/-- The paths of one kind in the outline, in another order. -/
theorem perm_paths_outline (hd : d ∈ store.directories) {isDirectory : Bool} {paths : List String}
    (hnodup : paths.Nodup) (hpaths : ∀ p, p ∈ paths ↔ store.Has (p, isDirectory) ∧
      Path.isBelow p d = true ∧ shows hidden d p = true) :
    (((outline store hidden d).filter (·.2 == isDirectory)).map (·.1)).Perm paths := by
  have hdrawn : (((outline store hidden d).filter (·.2 == isDirectory)).map (·.1)).Nodup :=
    (nodup_outline h hd).sublist (List.filter_sublist.map _)
  refine (List.perm_ext_iff_of_nodup hdrawn hnodup).2 fun p => ?_
  rw [hpaths, List.mem_map]
  constructor
  · rintro ⟨⟨q, k⟩, hmem, heq⟩
    obtain rfl : q = p := heq
    obtain ⟨hfound, hkind⟩ := List.mem_filter.1 hmem
    obtain rfl : k = isDirectory := by simpa using hkind
    exact (mem_outline_iff h hd).1 hfound
  · intro hp
    exact ⟨(p, isDirectory), List.mem_filter.2 ⟨(mem_outline_iff h hd).2 hp, by simp⟩, rfl⟩

theorem length_directories_outline (hd : d ∈ store.directories) :
    ((outline store hidden d).filter (·.2)).length =
      ((store.directoriesBelow d).filter (shows hidden d)).length := by
  have hperm : (((outline store hidden d).filter (·.2 == true)).map (·.1)).Perm
      ((store.directoriesBelow d).filter (shows hidden d)) :=
    perm_paths_outline h hd ((h.nodup.filter _).filter _) fun p => by
      rw [List.mem_filter, Store.directoriesBelow, List.mem_filter, and_assoc, Store.has_directory]
  rw [← hperm.length_eq, List.length_map]
  simp only [beq_true]

theorem length_files_outline (hd : d ∈ store.directories) :
    ((outline store hidden d).filter (!·.2)).length =
      ((store.filesBelow d).filter (shows hidden d)).length := by
  have hperm : (((outline store hidden d).filter (·.2 == false)).map (·.1)).Perm
      ((store.filesBelow d).filter (shows hidden d)) :=
    perm_paths_outline h hd ((store.files.nodup.filter _).filter _) fun p => by
      rw [List.mem_filter, Store.filesBelow, List.mem_filter, and_assoc, Store.has_file]
  rw [← hperm.length_eq, List.length_map]
  simp only [beq_false]

end WellFormed

end Builtin
end EditorShell

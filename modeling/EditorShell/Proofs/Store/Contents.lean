import EditorShell.Proofs.Path.Below
import EditorShell.Store.Check
import Mathlib.Data.List.Nodup

/-!
# What a directory holds

In a well-formed store the children of a directory are what lives at the paths whose parent it is
(`mem_children_iff`), each under the last segment of its path and in the strict order of these
names (`pairwise_children`). A walk finds the directory and all that lives below it, in the order
of the paths (`walk_perm`, `pairwise_walk`).
-/

namespace EditorShell

/-- The child as a walk finds it. -/
def Child.found (c : Child) : Store.Found := (c.path, c.isDirectory)

namespace Store

variable {store : Store} {d : String} {c : Child} {found : Found}

/-- A directory or a file, as `found` says, lives at the path. -/
def Has (store : Store) : Found → Prop
  | (path, true) => path ∈ store.directories
  | (path, false) => path ∈ store.files.keys

@[simp] theorem has_directory {p : String} : store.Has (p, true) ↔ p ∈ store.directories := .rfl

@[simp] theorem has_file {p : String} : store.Has (p, false) ↔ p ∈ store.files.keys := .rfl

theorem Has.mem (h : store.Has found) :
    found.1 ∈ store.files.keys ∨ found.1 ∈ store.directories := by
  obtain ⟨p, _ | _⟩ := found
  · exact .inl h
  · exact .inr h

/-- The children before they are put in order. -/
theorem children_perm (hd : d ∈ store.directories) :
    (store.children d).Perm (store.childDirectories d ++ store.childFiles d) := by
  rw [children, if_pos (isDirectory_iff.2 hd)]
  exact List.mergeSort_perm _ _

theorem mem_directories_of_mem_children (h : c ∈ store.children d) : d ∈ store.directories := by
  by_contra hd
  rw [children, if_neg (by simpa using hd)] at h
  simp at h

theorem name_of_mem_children (h : c ∈ store.children d) : c.name = Path.name c.path := by
  rw [(children_perm (mem_directories_of_mem_children h)).mem_iff, List.mem_append,
    childDirectories, childFiles, List.mem_map, List.mem_map] at h
  obtain ⟨_, -, rfl⟩ | ⟨_, -, rfl⟩ := h <;> rfl

/-- Where the children of a directory live. -/
theorem map_path_children_perm (hd : d ∈ store.directories) :
    ((store.children d).map (·.path)).Perm
      (store.directories.filter (fun p => p ≠ Path.root && Path.parent p = d) ++
        store.files.keys.filter (Path.parent · = d)) := by
  refine ((children_perm hd).map _).trans (.of_eq ?_)
  rw [List.map_append, childDirectories, childFiles, Table.keys, List.filter_map]
  simp [Function.comp_def]

namespace WellFormed

/-- Only one thing lives at a path. -/
theorem eq_of_has (h : WellFormed store) {other : Found} (hhas : store.Has found)
    (hother : store.Has other) (heq : found.1 = other.1) : found = other := by
  obtain ⟨p, _ | _⟩ := found <;> obtain ⟨q, _ | _⟩ := other <;> obtain rfl : p = q := heq
  · rfl
  · exact absurd hother (h.not_both p hhas)
  · exact absurd hhas (h.not_both p hother)
  · rfl

/-- **The children of a directory are what lives at the paths whose parent it is.** -/
theorem mem_children_iff (h : WellFormed store) (hd : d ∈ store.directories) :
    (∃ c ∈ store.children d, c.found = found) ↔
      found.1 ≠ Path.root ∧ Path.parent found.1 = d ∧ store.Has found := by
  obtain ⟨p, isDirectory⟩ := found
  simp only [(children_perm hd).mem_iff, List.mem_append, childDirectories, childFiles,
    List.mem_map, List.mem_filter]
  cases isDirectory with
  | true =>
    constructor
    · rintro ⟨_, ⟨q, ⟨hq, hwhere⟩, rfl⟩ | ⟨_, -, rfl⟩, heq⟩
      · obtain ⟨rfl, -⟩ := Prod.mk.inj heq
        simpa [hq] using hwhere
      · cases heq
    · rintro ⟨hne, hparent, hp⟩
      exact ⟨_, .inl ⟨p, ⟨hp, by simp [hne, hparent]⟩, rfl⟩, rfl⟩
  | false =>
    constructor
    · rintro ⟨_, ⟨_, -, rfl⟩ | ⟨entry, ⟨hentry, hparent⟩, rfl⟩, heq⟩
      · cases heq
      · obtain ⟨rfl, -⟩ := Prod.mk.inj heq
        have hfile : entry.1 ∈ store.files.keys := List.mem_map_of_mem hentry
        refine ⟨?_, by simpa using hparent, hfile⟩
        rintro (hroot : entry.1 = Path.root)
        exact h.not_both _ hfile (hroot ▸ h.root_mem)
    · rintro ⟨-, hparent, hp⟩
      obtain ⟨entry, hentry, rfl⟩ := List.mem_map.1 hp
      exact ⟨_, .inr ⟨entry, ⟨hentry, by simpa using hparent⟩, rfl⟩, rfl⟩

/-- A child is named by the segment that leads to it. -/
theorem path_of_mem_children (h : WellFormed store) (hc : c ∈ store.children d) :
    Path.IsSegment c.name ∧ c.path = Path.child d c.name := by
  obtain ⟨hne, hparent, hhas⟩ :
      c.path ≠ Path.root ∧ Path.parent c.path = d ∧ store.Has c.found :=
    (h.mem_children_iff (mem_directories_of_mem_children hc)).1 ⟨c, hc, rfl⟩
  have hpath : Path.IsCanonical c.path := h.canonical _ hhas.mem
  rw [name_of_mem_children hc]
  refine ⟨Path.isSegment_name hpath hne, ?_⟩
  rw [← hparent, Path.child_parent_name hpath hne]

/-- **The names of the children ascend:** no two children have the same name. -/
theorem pairwise_children (h : WellFormed store) (d : String) :
    (store.children d).Pairwise (·.name < ·.name) := by
  by_cases hd : d ∈ store.directories
  · have hnodup : ((store.children d).map (·.path)).Nodup := by
      refine (map_path_children_perm hd).nodup_iff.2 (List.nodup_append'.2
        ⟨h.nodup.filter _, store.files.nodup.filter _, fun p hp hfile => ?_⟩)
      exact h.not_both p (List.mem_filter.1 hfile).1 (List.mem_filter.1 hp).1
    have hsorted : (store.children d).Pairwise (·.name ≤ ·.name) := by
      rw [children, if_pos (isDirectory_iff.2 hd)]
      exact Text.pairwise_mergeSort_key _ _
    refine (hsorted.and (List.pairwise_map.1 hnodup)).imp_of_mem fun {a b} ha hb hab => ?_
    refine lt_of_le_of_ne hab.1 fun hname => hab.2 ?_
    rw [(h.path_of_mem_children ha).2, (h.path_of_mem_children hb).2, hname]
  · rw [children, if_neg (by simpa using hd)]
    exact .nil

end WellFormed

/-! ## Walks -/

namespace Found

variable {a b c : Found}

theorem le_iff : le a b = true ↔ a.1 < b.1 ∨ a.1 = b.1 ∧ a.2 ≤ b.2 := by simp [le]

theorem le_trans (hab : le a b = true) (hbc : le b c = true) : le a c = true := by
  rw [le_iff] at *
  rcases hab with hab | ⟨hab, hab'⟩ <;> rcases hbc with hbc | ⟨hbc, hbc'⟩
  · exact .inl (hab.trans hbc)
  · exact .inl (hbc ▸ hab)
  · exact .inl (hab ▸ hbc)
  · exact .inr ⟨hab.trans hbc, hab'.trans hbc'⟩

theorem le_total (a b : Found) : (le a b || le b a) = true := by
  rw [Bool.or_eq_true, le_iff, le_iff]
  rcases lt_trichotomy a.1 b.1 with hlt | heq | hlt
  · exact .inl (.inl hlt)
  · exact (Bool.le_total a.2 b.2).imp (fun hle => .inr ⟨heq, hle⟩) fun hle => .inr ⟨heq.symm, hle⟩
  · exact .inr (.inl hlt)

end Found

/-- A walk goes through the paths in order. -/
theorem pairwise_walk {path : String} {walked : List Found} (h : store.walk path = .ok walked) :
    walked.Pairwise (·.1 ≤ ·.1) := by
  have hsorted (found : List Found) : (found.mergeSort Found.le).Pairwise (·.1 ≤ ·.1) := by
    have hle : (found.mergeSort Found.le).Pairwise fun a b => Found.le a b = true :=
      @List.pairwise_mergeSort Found Found.le (fun _ _ _ => Found.le_trans) Found.le_total found
    exact hle.imp fun hab => (Found.le_iff.1 hab).elim le_of_lt fun heq => heq.1.le
  unfold walk at h
  split_ifs at h <;> cases h
  · exact List.pairwise_singleton _ _
  · exact hsorted _

namespace WellFormed

/-- A directory and the directories below it. -/
theorem directoriesWithin_perm (h : WellFormed store) (hd : d ∈ store.directories) :
    (store.directories.filter (Path.isWithin · d)).Perm (d :: store.directoriesBelow d) := by
  have hself : d ∉ store.directoriesBelow d := by simp [directoriesBelow]
  refine (List.perm_ext_iff_of_nodup (h.nodup.filter _) (List.nodup_cons.2
    ⟨hself, h.nodup.filter _⟩)).2 fun p => ?_
  rw [List.mem_filter, List.mem_cons, directoriesBelow, List.mem_filter, Path.isWithin_iff]
  constructor
  · rintro ⟨hp, heq | hbelow⟩
    · exact .inl heq
    · exact .inr ⟨hp, hbelow⟩
  · rintro (rfl | ⟨hp, hbelow⟩)
    · exact ⟨hd, .inl rfl⟩
    · exact ⟨hp, .inr hbelow⟩

/-- **A walk finds a directory and what lives below it.** -/
theorem walk_perm (h : WellFormed store) (hd : d ∈ store.directories) :
    ∃ walked, store.walk d = .ok walked ∧ walked.Perm
      ((d :: store.directoriesBelow d).map (·, true) ++ (store.filesBelow d).map (·, false)) := by
  have hfile : d ∉ store.files.keys := fun hfile => h.not_both d hfile hd
  refine ⟨_, by rw [walk, if_neg (by simpa using hfile), if_pos (by simpa using hd)], ?_⟩
  exact (List.mergeSort_perm _ _).trans (((h.directoriesWithin_perm hd).map _).append_right _)

end WellFormed
end Store
end EditorShell

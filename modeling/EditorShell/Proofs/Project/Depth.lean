import EditorShell.Proofs.Path.Relative
import EditorShell.Proofs.Project.Export
import EditorShell.Proofs.Project.Text

/-!
# How deep the tree of a store is

A path has as many names as there are directories above it, the root among them. In a well-formed
store a path hangs on its parent, so a node of the tree lies as deep as its path has names
(`heightAll_hanging_le_iff`), and the height of the tree is the number of names in the longest path
(`heightAll_tree_le_iff`). With the bound on what is read again this tells from the paths of a store
whether its tree can be loaded.
-/

namespace EditorShell

namespace Path

variable {p : String}

/-- A path has one name more than its parent. -/
theorem length_ancestors (h : p ≠ root) :
    (ancestors p).length = (ancestors (parent p)).length + 1 := by
  rw [ancestors, if_neg h, List.length_append, List.length_singleton]

/-- The names of a path are its segments. -/
theorem length_ancestors_ofSegments {s : List String} (hs : ∀ a ∈ s, IsSegment a) :
    (ancestors (ofSegments s)).length = s.length := by
  induction s using List.reverseRecOn with
  | nil => simp
  | append_singleton s a ih =>
    have hs' : ∀ b ∈ s, IsSegment b := fun b hb => hs b (by simp [hb])
    rw [← child_ofSegments hs', ancestors_child (isCanonical_ofSegments hs') (hs a (by simp)),
      List.length_append, ih hs', List.length_append, List.length_singleton, List.length_singleton]

/-- What lies above a path has no more names than the path. -/
theorem length_ancestors_le {a : String} (hp : IsCanonical p) (ha : a ∈ ancestors p) :
    (ancestors a).length ≤ (ancestors p).length := by
  induction p, hp using IsCanonical.induction with
  | root => simp at ha
  | child d n hd hn ih =>
    rw [ancestors_child hd hn, List.mem_append, List.mem_singleton] at ha
    rw [ancestors_child hd hn, List.length_append, List.length_singleton]
    obtain ha | rfl := ha
    · exact Nat.le_succ_of_le (ih ha)
    · exact Nat.le_succ _

end Path

namespace ProjectNode

theorem heightAll_le_iff {nodes : List ProjectNode} {n : Nat} :
    heightAll nodes ≤ n ↔ ∀ node ∈ nodes, height node ≤ n := by
  induction nodes with
  | nil => simp [heightAll]
  | cons node nodes ih => simp [heightAll, ih]

end ProjectNode

namespace Store

open ProjectNode (height heightAll heightAll_le_iff)

variable {store : Store} {p d : String}

/-- No path of the store has more than `n` names. -/
def DepthAtMost (n : Nat) (store : Store) : Prop :=
  ∀ p, p ∈ store.files.keys ∨ p ∈ store.directories → (Path.ancestors p).length ≤ n

/-- What is created together with a directory lies above it. -/
theorem DepthAtMost.createDirectory {n : Nat} {parents : Bool} (h : store.DepthAtMost n)
    (hp : Path.IsCanonical p) (hn : (Path.ancestors p).length ≤ n) :
    (store.perform (.createDirectory p parents)).1.DepthAtMost n := by
  refine attempt_of h fun done hdone => ?_
  obtain ⟨-, ⟨-, rfl⟩ | ⟨-, -, rfl⟩⟩ := createDirectory_eq_ok hdone
  · exact h
  · rintro q (hfile | hdir)
    · exact h q (.inl (by simpa using hfile))
    · rw [mem_directories_addDirectories, List.mem_append, List.mem_filter,
        List.mem_singleton] at hdir
      obtain (⟨habove, -⟩ | rfl) | hold := hdir
      · exact (Path.length_ancestors_le hp habove).trans hn
      · exact hn
      · exact h q (.inr hold)

namespace WellFormed

variable (h : WellFormed store)
include h

/-- A node is higher by one than what hangs on it. -/
theorem height_subtree (p : String) :
    height (store.subtree p) = heightAll (store.hanging (some p)) + 1 := by
  have hbelow := h.nodesBelow_subtree p
  rw [subtree_eq fun _ => h.isCanonical_of_mem_treePaths, nodeAt] at hbelow ⊢
  split at hbelow
  · rw [← hbelow]
    rfl
  · rfl

/-- What hangs on a directory, or stands at the top, has the directory for its parent. -/
theorem heightAll_hanging_le_iff_forall (d : String) (n : Nat) :
    heightAll (store.hanging (if d = Path.root then none else some d)) ≤ n ↔
      ∀ q ∈ store.treePaths, Path.parent q = d → height (store.subtree q) ≤ n := by
  have howner : ∀ q ∈ store.treePaths,
      (store.owner? q = if d = Path.root then none else some d) ↔ Path.parent q = d := by
    intro q hq
    rw [h.owner?_eq hq]
    split_ifs with hroot hd hd
    · simp [hroot, hd]
    · simp [hroot, Ne.symm hd]
    · simp [hroot, hd]
    · simp
  simp only [heightAll_le_iff, hanging, List.forall_mem_map, List.mem_filter, decide_eq_true_eq]
  exact forall_congr' fun q => ⟨fun hle hq hqd => hle ⟨hq, (howner q hq).2 hqd⟩,
    fun hle hq => hle hq.1 ((howner q hq.1).1 hq.2)⟩

theorem isBelow_parent_of_mem_treePaths (hp : p ∈ store.treePaths) :
    Path.isBelow p (Path.parent p) = true :=
  Path.isBelow_parent (h.isCanonical_of_mem_treePaths hp) (h.ne_root_of_mem_treePaths hp)

/-- What lies below a directory is a child of it or lies below one. -/
theorem exists_child_of_isBelow (hp : p ∈ store.treePaths) (hd : Path.IsCanonical d)
    (hbelow : Path.isBelow p d = true) :
    ∃ q ∈ store.treePaths, Path.parent q = d ∧ Path.isWithin p q = true := by
  obtain ⟨n, hn, hin⟩ := Path.exists_child_of_isBelow (h.isCanonical_of_mem_treePaths hp) hd hbelow
  refine ⟨Path.child d n, ?_, Path.parent_child hd hn, hin⟩
  rcases Path.isWithin_iff.1 hin with rfl | hin
  · exact hp
  · -- what holds something is a directory
    have hlives : p ∈ store.files.keys ∨ p ∈ store.directories :=
      (mem_treePaths.1 hp).symm.imp id fun hfolder => (isFolder_iff.1 hfolder).2.1
    have hmem := h.mem_of_isBelow hlives (Path.isCanonical_child hd hn) hin
    exact mem_treePaths.2 (.inl (isFolder_iff.2
      ⟨Path.child_ne_root hd hn, hmem, fun hfile => h.not_both _ hfile hmem⟩))

/-- **A node lies as deep below a directory as its path has further names.** -/
theorem heightAll_hanging_le_iff (hd : Path.IsCanonical d) (n : Nat) :
    heightAll (store.hanging (if d = Path.root then none else some d)) ≤ n ↔
      ∀ p ∈ store.treePaths, Path.isBelow p d = true →
        (Path.ancestors p).length ≤ (Path.ancestors d).length + n := by
  induction n generalizing d with
  | zero =>
    rw [h.heightAll_hanging_le_iff_forall]
    constructor
    · intro hheight p hp hbelow
      obtain ⟨q, hq, hqd, -⟩ := h.exists_child_of_isBelow hp hd hbelow
      have hle := hheight q hq hqd
      rw [h.height_subtree] at hle
      omega
    · rintro hdepth q hq rfl
      have hle := hdepth q hq (h.isBelow_parent_of_mem_treePaths hq)
      rw [Path.length_ancestors (h.ne_root_of_mem_treePaths hq)] at hle
      omega
  | succ n ih =>
    -- a child of `d` has one name more, and below it one level less is left
    have hchild : ∀ q ∈ store.treePaths, height (store.subtree q) ≤ n + 1 ↔
        ∀ p ∈ store.treePaths, Path.isBelow p q = true →
          (Path.ancestors p).length ≤ (Path.ancestors (Path.parent q)).length + (n + 1) := by
      intro q hq
      have hroot := h.ne_root_of_mem_treePaths hq
      have hq' := ih (h.isCanonical_of_mem_treePaths hq)
      rw [if_neg hroot, Path.length_ancestors hroot] at hq'
      rw [h.height_subtree, Nat.add_le_add_iff_right, hq']
      simp only [Nat.add_assoc, Nat.add_comm 1 n]
    rw [h.heightAll_hanging_le_iff_forall]
    constructor
    · intro hheight p hp hbelow
      obtain ⟨q, hq, rfl, hin⟩ := h.exists_child_of_isBelow hp hd hbelow
      obtain rfl | hbelow := Path.isWithin_iff.1 hin
      · rw [Path.length_ancestors (h.ne_root_of_mem_treePaths hq)]
        omega
      · exact (hchild q hq).1 (hheight q hq rfl) p hp hbelow
    · rintro hdepth q hq rfl
      refine (hchild q hq).2 fun p hp hbelow => hdepth p hp ?_
      exact Path.isBelow_trans (h.isCanonical_of_mem_treePaths hp)
        (h.isCanonical_of_mem_treePaths hq) hd hbelow (h.isBelow_parent_of_mem_treePaths hq)

/-- **The tree is as high as the longest path of the store has names.** -/
theorem heightAll_tree_le_iff (n : Nat) : heightAll store.tree ≤ n ↔ store.DepthAtMost n := by
  have hheight := h.heightAll_hanging_le_iff Path.isCanonical_root n
  rw [if_pos rfl, Path.ancestors_root, List.length_nil, Nat.zero_add] at hheight
  rw [tree_eq_hanging h.nodup fun _ => h.isCanonical_of_mem_treePaths, hheight]
  constructor
  · intro hdepth p hp
    by_cases hroot : p = Path.root
    · simp [hroot]
    · have hpath : p ∈ store.treePaths := by
        rw [mem_treePaths, isFolder_iff]
        obtain hfile | hdir := hp
        · exact .inr hfile
        · exact .inl ⟨hroot, hdir, fun hfile => h.not_both p hfile hdir⟩
      have hwithin := Path.isWithin_root (h.canonical p hp)
      exact hdepth p hpath (Path.isBelow_iff.2 ⟨hwithin, hroot⟩)
  · intro hdepth p hp _
    exact hdepth p ((mem_treePaths.1 hp).symm.imp_right fun hp => (isFolder_iff.1 hp).2.1)

end WellFormed
end Store
end EditorShell

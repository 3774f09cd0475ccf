import EditorShell.Proofs.Project.Entries
import EditorShell.Proofs.Store.WellFormed
import EditorShell.Project.Export

/-!
# Exporting project trees

The export builds the tree from the last path to the first. What comes out can be said without that
order: a path that is exported has a node (`subtree`), on which those paths hang, in order, whose
`owner?` it is (`subtree_eq`), and the tree is made of the paths without owner (`tree_eq_hanging`).
This holds of every store whose paths are canonical, well formed or not.

In a well-formed store the owner of a path is its parent, so the tree spells every path of the
store, each once (`perm_entriesAll_tree`).
-/

namespace EditorShell
namespace Store

variable {store other : Store} {p o : String}

/-! ## The paths that are exported -/

theorem isFolder_iff :
    store.isFolder p = true ↔
      p ≠ Path.root ∧ p ∈ store.directories ∧ p ∉ store.files.keys := by
  simp [isFolder, and_assoc]

theorem mem_treePaths :
    p ∈ store.treePaths ↔ store.isFolder p = true ∨ p ∈ store.files.keys := by
  simp only [treePaths, Text.mem_sort, List.mem_append, List.mem_filter, isFolder_iff]
  grind

theorem nodup_treePaths (h : store.directories.Nodup) : store.treePaths.Nodup := by
  refine (Text.sort_perm _).nodup_iff.2 (List.nodup_append'.2 ⟨h.filter _, store.files.nodup, ?_⟩)
  intro p hp hfile
  exact (isFolder_iff.1 (List.mem_filter.1 hp).2).2.2 hfile

theorem pairwise_treePaths (h : store.directories.Nodup) : store.treePaths.Pairwise (· < ·) := by
  have hle := Text.pairwise_sort (store.directories.filter store.isFolder ++ store.files.keys)
  exact (hle.and (nodup_treePaths h)).imp fun ⟨hle, hne⟩ => lt_of_le_of_ne hle hne

theorem owner?_eq_some (h : store.owner? p = some o) :
    o ∈ Path.ancestors p ∧ store.isFolder o = true :=
  List.mem_filter.1 (List.mem_of_getLast? h)

@[simp] theorem owner?_root : store.owner? Path.root = none := by simp [owner?]

/-- The folder is looked for upwards from the parent. -/
theorem owner?_step (hp : p ≠ Path.root) :
    store.owner? p =
      if store.isFolder (Path.parent p) then some (Path.parent p)
      else store.owner? (Path.parent p) := by
  rw [owner?, Path.ancestors, if_neg hp, List.filter_append]
  split
  next hfolder => rw [List.filter_cons_of_pos hfolder, List.filter_nil, List.getLast?_concat]
  next hfolder => rw [List.filter_cons_of_neg hfolder, List.filter_nil, List.append_nil, owner?]

theorem owner?_mem (h : store.owner? p = some o) : o ∈ store.treePaths :=
  mem_treePaths.2 (.inl (owner?_eq_some h).2)

/-- What a path hangs on comes before it. -/
theorem owner?_lt (hp : Path.IsCanonical p) (h : store.owner? p = some o) : o < p := by
  obtain ⟨hmem, -⟩ := owner?_eq_some h
  have ho := Path.isCanonical_of_mem_ancestors hp hmem
  exact Path.lt_of_isBelow hp ho ((Path.mem_ancestors_iff hp ho).1 hmem)

/-- The tree depends only on which directories and files there are, and on the nodes of their
paths. -/
theorem tree_congr (hnodup : store.directories.Nodup) (hnodup' : other.directories.Nodup)
    (hdirs : ∀ d, d ∈ store.directories ↔ d ∈ other.directories)
    (hkeys : ∀ f, f ∈ store.files.keys ↔ f ∈ other.files.keys)
    (hnode : ∀ p children, store.nodeAt p children = other.nodeAt p children) :
    store.tree = other.tree := by
  have hfolder : store.isFolder = other.isFolder := by
    funext p
    rw [Bool.eq_iff_iff, isFolder_iff, isFolder_iff, hdirs, hkeys]
  have hpaths : store.treePaths = other.treePaths := by
    refine Text.sort_eq_of_perm ((List.perm_ext_iff_of_nodup ?_ ?_).2 fun p => ?_)
    · exact (Text.sort_perm _).nodup_iff.1 (nodup_treePaths hnodup)
    · exact (Text.sort_perm _).nodup_iff.1 (nodup_treePaths hnodup')
    · simp [hfolder, hdirs, hkeys]
  have hhang : store.hang = other.hang := by
    funext p waiting
    simp only [hang, owner?, hfolder, hnode]
  rw [tree, tree, hpaths, hhang]

/-! ## The node of a path -/

/-- The node of a path with all that hangs on it. -/
def subtree (store : Store) (path : String) : ProjectNode :=
  store.nodeAt path
    ((store.treePaths.filter fun p => path < p && store.owner? p == some path).attach.map
      fun p => store.subtree p.1)
termination_by (store.treePaths.filter (path < ·)).length
decreasing_by
  obtain ⟨hmem, hlt⟩ := List.mem_filter.1 p.2
  rw [Bool.and_eq_true, decide_eq_true_eq] at hlt
  -- `p` itself comes after `path`, but not after `p`
  have hsub : store.treePaths.filter (p.1 < ·) =
      (store.treePaths.filter (path < ·)).filter (p.1 < ·) := by
    rw [List.filter_filter]
    refine List.filter_congr fun q _ => ?_
    rw [Bool.eq_iff_iff, Bool.and_eq_true, decide_eq_true_eq, decide_eq_true_eq]
    exact ⟨fun h => ⟨h, hlt.1.trans h⟩, And.left⟩
  rw [hsub]
  exact List.length_filter_lt_length_iff_exists.2
    ⟨p.1, List.mem_filter.2 ⟨hmem, decide_eq_true hlt.1⟩, by simp⟩

/-- The nodes that hang on a folder, or stand at the top. -/
def hanging (store : Store) (owner : Option String) : List ProjectNode :=
  (store.treePaths.filter (store.owner? · = owner)).map store.subtree

/-- The paths of a list that hang on none of it. -/
def unowned (store : Store) (paths : List String) : List String :=
  paths.filter fun p => ∀ o ∈ paths, store.owner? p ≠ some o

theorem unowned_treePaths (store : Store) :
    store.unowned store.treePaths = store.treePaths.filter (store.owner? · = none) := by
  refine List.filter_congr fun p _ => ?_
  cases h : store.owner? p with
  | none => simp
  | some o => simpa using owner?_mem h

/-- Nothing hangs on a file. -/
theorem hanging_eq_nil (hp : p ∈ store.files.keys) : store.hanging (some p) = [] := by
  refine List.map_eq_nil_iff.2 (List.filter_eq_nil_iff.2 fun q _ howner => ?_)
  have hfolder := (owner?_eq_some (of_decide_eq_true howner)).2
  exact (isFolder_iff.1 hfolder).2.2 hp

section Canonical

variable (hnodup : store.directories.Nodup) (hcanonical : ∀ p ∈ store.treePaths, Path.IsCanonical p)

include hcanonical in
/-- A node holds the nodes of the paths that hang on it, in order. -/
theorem subtree_eq (p : String) :
    store.subtree p = store.nodeAt p (store.hanging (some p)) := by
  rw [subtree, List.attach_map_val (f := store.subtree), hanging]
  congr 2
  refine List.filter_congr fun q hq => ?_
  rw [Bool.eq_iff_iff]
  simpa using fun h => owner?_lt (hcanonical q hq) h

section Suffix

variable {done paths : List String} (heq : store.treePaths = done ++ p :: paths)

include hnodup heq in
theorem not_mem_of_treePaths_eq : p ∉ paths := by
  have h := heq ▸ nodup_treePaths hnodup
  exact (List.nodup_cons.1 (List.nodup_append.1 h).2.1).1

include hnodup hcanonical heq in
/-- What hangs on a path comes after it. -/
theorem filter_owner?_before : (done ++ [p]).filter (store.owner? · = some p) = [] := by
  have hpairwise := heq ▸ pairwise_treePaths hnodup
  refine List.filter_eq_nil_iff.2 fun q hq howner => ?_
  have hlt : p < q := owner?_lt (hcanonical q (by grind)) (of_decide_eq_true howner)
  rcases List.mem_append.1 hq with hq | hq
  · exact lt_asymm hlt ((List.pairwise_append.1 hpairwise).2.2 q hq p List.mem_cons_self)
  · exact hlt.ne (List.mem_singleton.1 hq).symm

include hnodup hcanonical heq in
theorem filter_owner?_eq :
    store.treePaths.filter (store.owner? · = some p) = paths.filter (store.owner? · = some p) := by
  rw [heq, List.append_cons, List.filter_append, filter_owner?_before hnodup hcanonical heq,
    List.nil_append]

include hnodup heq in
theorem filter_unowned :
    (store.unowned paths).filter (store.owner? · == some p) =
      paths.filter (store.owner? · = some p) := by
  have hnot := not_mem_of_treePaths_eq hnodup heq
  rw [unowned, List.filter_filter]
  refine List.filter_congr fun q _ => ?_
  rw [Bool.eq_iff_iff]
  simp only [Bool.and_eq_true, beq_iff_eq, decide_eq_true_eq, and_iff_left_iff_imp]
  intro h o ho howner
  rw [h, Option.some.injEq] at howner
  exact hnot (howner ▸ ho)

include hnodup hcanonical heq in
theorem unowned_cons :
    store.unowned (p :: paths) =
      p :: (store.unowned paths).filter fun q => !(store.owner? q == some p) := by
  have howner : ∀ o ∈ p :: paths, store.owner? p ≠ some o := by
    intro o ho h
    have hlt := owner?_lt (hcanonical p (by simp [heq])) h
    rcases List.mem_cons.1 ho with rfl | ho
    · exact lt_irrefl _ hlt
    · have hpairwise := (List.pairwise_append.1 (heq ▸ pairwise_treePaths hnodup)).2.1
      exact lt_asymm hlt (List.rel_of_pairwise_cons hpairwise ho)
  rw [unowned, List.filter_cons_of_pos (by simpa using howner), unowned, List.filter_filter]
  congr 1
  refine List.filter_congr fun q _ => ?_
  rw [Bool.eq_iff_iff]
  simp

end Suffix

include hnodup hcanonical in
/-- When the paths from some point on are built, those wait that hang on an earlier one or none. -/
theorem foldr_hang {done paths : List String} (heq : store.treePaths = done ++ paths) :
    paths.foldr store.hang [] =
      (store.unowned paths).map fun p => (store.owner? p, store.subtree p) := by
  induction paths generalizing done with
  | nil => rfl
  | cons p paths ih =>
    rw [List.foldr_cons, ih (List.append_cons done p paths ▸ heq), hang,
      List.partition_eq_filter_filter, unowned_cons hnodup hcanonical heq, List.map_cons,
      subtree_eq hcanonical, hanging, filter_owner?_eq hnodup hcanonical heq,
      ← filter_unowned hnodup heq]
    simp only [List.filter_map, List.map_map, Function.comp_def]

include hnodup hcanonical in
/-- **The tree is made of the paths that hang on no folder,** each with all that hangs on it. -/
theorem tree_eq_hanging : store.tree = store.hanging none := by
  rw [tree, foldr_hang hnodup hcanonical (List.nil_append _).symm, List.map_map, hanging,
    unowned_treePaths]
  rfl

include hnodup hcanonical in
/-- What every path contributes first and then all that hangs on it, is contributed once in all:
`part` is what a path contributes with what hangs on it, and `own` without. -/
theorem perm_flatMap_unowned {α : Type} {part : String → List α} {own : String → α}
    (hpart : ∀ p ∈ store.treePaths, part p =
      own p :: (store.treePaths.filter (store.owner? · = some p)).flatMap part)
    {done paths : List String} (heq : store.treePaths = done ++ paths) :
    ((store.unowned paths).flatMap part).Perm (paths.map own) := by
  induction paths generalizing done with
  | nil => exact .refl _
  | cons p paths ih =>
    rw [unowned_cons hnodup hcanonical heq, List.flatMap_cons, hpart p (by simp [heq]),
      filter_owner?_eq hnodup hcanonical heq, ← filter_unowned hnodup heq, List.map_cons,
      List.cons_append, ← List.flatMap_append]
    refine .cons _ (.trans ?_ (ih (List.append_cons done p paths ▸ heq)))
    exact (List.filter_append_perm _ _).flatMap_right _

end Canonical

/-! ## The tree of a well-formed store -/

/-- What the tree says of a path. -/
def entryAt (store : Store) (path : String) : TreeEntry := (path, (store.nodeAt path []).info)

@[simp] theorem info_nodeAt (store : Store) (path : String) (children : List ProjectNode) :
    (store.nodeAt path children).info = (store.entryAt path).2 := by
  unfold entryAt nodeAt
  split <;> rfl

theorem name_entryAt (store : Store) (path : String) :
    (store.entryAt path).2.name = Path.name path := by
  unfold entryAt nodeAt
  split <;> rfl

namespace WellFormed

variable (h : WellFormed store)

include h

theorem isCanonical_of_mem_treePaths (hp : p ∈ store.treePaths) : Path.IsCanonical p := by
  rcases mem_treePaths.1 hp with hp | hp
  · exact h.canonical p (.inr (isFolder_iff.1 hp).2.1)
  · exact h.canonical p (.inl hp)

theorem ne_root_of_mem_treePaths (hp : p ∈ store.treePaths) : p ≠ Path.root := by
  rcases mem_treePaths.1 hp with hp | hp
  · exact (isFolder_iff.1 hp).1
  · exact fun he => h.root_not_mem_keys (he ▸ hp)

theorem parent_mem_of_mem_treePaths (hp : p ∈ store.treePaths) :
    Path.parent p ∈ store.directories := by
  refine h.parent_mem ?_ (h.ne_root_of_mem_treePaths hp)
  exact (mem_treePaths.1 hp).symm.imp_right fun hp => (isFolder_iff.1 hp).2.1

/-- A path hangs on its parent, unless that is the root. -/
theorem owner?_eq (hp : p ∈ store.treePaths) :
    store.owner? p = if Path.parent p = Path.root then none else some (Path.parent p) := by
  rw [owner?_step (h.ne_root_of_mem_treePaths hp)]
  split_ifs with hfolder hroot hroot
  · exact absurd hroot (isFolder_iff.1 hfolder).1
  · rfl
  · rw [hroot, owner?_root]
  · have hparent := h.parent_mem_of_mem_treePaths hp
    exact absurd (isFolder_iff.2 ⟨hroot, hparent, fun hfile => h.not_both _ hfile hparent⟩) hfolder

theorem parent_eq (hp : p ∈ store.treePaths) {owner : Option String}
    (howner : store.owner? p = owner) : Path.parent p = owner.getD Path.root := by
  rw [← howner, h.owner?_eq hp]
  split
  next hroot => exact hroot
  · rfl

/-- Where its owner puts it, the node of a path spells the path. -/
theorem entry_subtree (hp : p ∈ store.treePaths) :
    (store.subtree p).entry (Path.parent p) = store.entryAt p := by
  rw [subtree, ProjectNode.entry, info_nodeAt, name_entryAt,
    Path.child_parent_name (h.isCanonical_of_mem_treePaths hp) (h.ne_root_of_mem_treePaths hp)]
  rfl

theorem nodesBelow_subtree (p : String) :
    (store.subtree p).nodesBelow = store.hanging (some p) := by
  rw [subtree_eq fun _ => h.isCanonical_of_mem_treePaths, nodeAt]
  split
  next file hfile => rw [hanging_eq_nil (Table.mem_keys_of_get? hfile), ProjectNode.nodesBelow]
  · rfl

/-- A path spells itself and what the paths spell that hang on it. -/
theorem entries_subtree (hp : p ∈ store.treePaths) :
    ProjectNode.entries (Path.parent p) (store.subtree p) =
      store.entryAt p :: (store.treePaths.filter (store.owner? · = some p)).flatMap fun q =>
        ProjectNode.entries (Path.parent q) (store.subtree q) := by
  rw [ProjectNode.entries_eq, h.entry_subtree hp, h.nodesBelow_subtree,
    ProjectNode.entriesAll_eq_flatMap, hanging, List.flatMap_map]
  refine congrArg _ (List.flatMap_congr fun q hq => ?_)
  obtain ⟨hq, howner⟩ := List.mem_filter.1 hq
  rw [h.parent_eq hq (of_decide_eq_true howner), Option.getD_some]
  rfl

/-- **The tree spells every path of the store, each once.** -/
theorem perm_entriesAll_tree :
    (ProjectNode.entriesAll Path.root store.tree).Perm (store.treePaths.map store.entryAt) := by
  have hcanonical : ∀ p ∈ store.treePaths, Path.IsCanonical p :=
    fun _ => h.isCanonical_of_mem_treePaths
  rw [tree_eq_hanging h.nodup hcanonical, ProjectNode.entriesAll_eq_flatMap, hanging,
    List.flatMap_map, ← unowned_treePaths]
  refine .trans (.of_eq (List.flatMap_congr fun p hp => ?_))
    (perm_flatMap_unowned h.nodup hcanonical (fun _ => h.entries_subtree)
      (List.nil_append _).symm)
  rw [unowned_treePaths] at hp
  obtain ⟨hp, howner⟩ := List.mem_filter.1 hp
  rw [h.parent_eq hp (of_decide_eq_true howner), Option.getD_none]

theorem mem_entriesAll_tree {entry : TreeEntry} :
    entry ∈ ProjectNode.entriesAll Path.root store.tree ↔
      ∃ p ∈ store.treePaths, store.entryAt p = entry := by
  rw [h.perm_entriesAll_tree.mem_iff, List.mem_map]

end WellFormed

end Store
end EditorShell

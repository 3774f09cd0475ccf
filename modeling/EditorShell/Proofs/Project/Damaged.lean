import EditorShell.Proofs.Project.Assembly

/-!
# The tree of a damaged store

A store whose paths are canonical may still be damaged: directories are missing, the root among
them, or a path is both a directory and a file. The tree shows all of it. Every path but the root
directory has one node (`perm_preorderAll_tree`), which is a file if there is a file at the path, and
the node hangs on the closest directory above it that is no file (`owner?_eq_some_iff`). The single
pass does not break off either, and builds this tree (`displays_tree`).
-/

namespace EditorShell

/-! ## The nodes of a forest -/

namespace ProjectNode

mutual

/-- The node and all nodes under it. -/
def preorder : ProjectNode → List ProjectNode
  | .leaf info => [.leaf info]
  | .branch info children => .branch info children :: preorderAll children

/-- All nodes of a forest. -/
def preorderAll : List ProjectNode → List ProjectNode
  | [] => []
  | node :: nodes => preorder node ++ preorderAll nodes

end

theorem preorder_eq (node : ProjectNode) :
    node.preorder = node :: preorderAll node.children := by
  cases node <;> simp [preorder, preorderAll, children]

theorem preorderAll_eq_flatMap (nodes : List ProjectNode) :
    preorderAll nodes = nodes.flatMap preorder := by
  induction nodes with
  | nil => rw [preorderAll, List.flatMap_nil]
  | cons node nodes ih => rw [preorderAll, ih, List.flatMap_cons]

end ProjectNode

/-- Of two ancestors of a path the later one lies below the earlier one. -/
theorem Path.pairwise_ancestors {p : String} (hp : Path.IsCanonical p) :
    (Path.ancestors p).Pairwise fun a b => Path.isBelow b a = true := by
  induction p, hp using Path.IsCanonical.induction with
  | root => simp
  | child d n hd hn ih =>
    rw [Path.ancestors_child hd hn]
    refine List.pairwise_append.2 ⟨ih, List.pairwise_singleton .., fun a ha b hb => ?_⟩
    rw [List.mem_singleton.1 hb]
    exact (Path.mem_ancestors_iff hd (Path.isCanonical_of_mem_ancestors hd ha)).1 ha

namespace Store

variable {store : Store} {p o o' : String}

/-! ## The closest folder -/

/-- The folder lies above the path, and is a directory other than the root and no file; no such
directory has a longer path. -/
structure IsClosestFolder (store : Store) (path folder : String) : Prop where
  isBelow : Path.isBelow path folder = true
  ne_root : folder ≠ Path.root
  isDirectory : folder ∈ store.directories
  not_file : folder ∉ store.files.keys
  longest : ∀ d ∈ store.directories, d ≠ Path.root → d ∉ store.files.keys →
    Path.isBelow path d = true → d.length ≤ folder.length

section Canonical

variable (hdirectories : ∀ d ∈ store.directories, Path.IsCanonical d)
include hdirectories

theorem mem_filter_ancestors (hp : Path.IsCanonical p) :
    o ∈ (Path.ancestors p).filter store.isFolder ↔
      Path.isBelow p o = true ∧ o ≠ Path.root ∧ o ∈ store.directories ∧ o ∉ store.files.keys := by
  rw [List.mem_filter, isFolder_iff]
  constructor
  · rintro ⟨habove, hfolder⟩
    exact ⟨(Path.mem_ancestors_iff hp (hdirectories o hfolder.2.1)).1 habove, hfolder⟩
  · rintro ⟨hbelow, hfolder⟩
    exact ⟨(Path.mem_ancestors_iff hp (hdirectories o hfolder.2.1)).2 hbelow, hfolder⟩

theorem isClosestFolder_of_owner? (hp : Path.IsCanonical p) (h : store.owner? p = some o) :
    store.IsClosestFolder p o := by
  obtain ⟨before, hsplit⟩ := List.getLast?_eq_some_iff.1 h
  have hmem (d : String) := mem_filter_ancestors (o := d) hdirectories hp
  obtain ⟨hbelow, hroot, hdir, hfile⟩ := (hmem o).1 (by simp [hsplit])
  refine ⟨hbelow, hroot, hdir, hfile, fun d hd hdroot hdfile hpd => ?_⟩
  have hlisted := (hmem d).2 ⟨hpd, hdroot, hd, hdfile⟩
  have hpairwise := (Path.pairwise_ancestors hp).filter store.isFolder
  rw [hsplit] at hlisted hpairwise
  rcases List.mem_append.1 hlisted with hbefore | hlast
  · have hod := (List.pairwise_append.1 hpairwise).2.2 d hbefore o (by simp)
    exact (Path.length_lt_of_isBelow (hdirectories o hdir) (hdirectories d hd) hod).le
  · rw [List.mem_singleton.1 hlast]

theorem IsClosestFolder.unique (hp : Path.IsCanonical p) (h : store.IsClosestFolder p o)
    (h' : store.IsClosestFolder p o') : o = o' := by
  have hone {a b : String} (ha : store.IsClosestFolder p a) (hb : store.IsClosestFolder p b)
      (hin : Path.isWithin a b = true) : a = b := by
    refine (Path.isWithin_iff.1 hin).resolve_right fun hbelow => ?_
    have hlt := Path.length_lt_of_isBelow (hdirectories a ha.isDirectory)
      (hdirectories b hb.isDirectory) hbelow
    exact absurd (hb.longest a ha.isDirectory ha.ne_root ha.not_file ha.isBelow) (not_le.2 hlt)
  rcases Path.isWithin_total hp (hdirectories o h.isDirectory) (hdirectories o' h'.isDirectory)
    (Path.isWithin_of_isBelow h.isBelow) (Path.isWithin_of_isBelow h'.isBelow) with hin | hin
  · exact hone h h' hin
  · exact (hone h' h hin).symm

/-- **A path hangs on the closest folder above it.** -/
theorem owner?_eq_some_iff (hp : Path.IsCanonical p) :
    store.owner? p = some o ↔ store.IsClosestFolder p o := by
  refine ⟨isClosestFolder_of_owner? hdirectories hp, fun h => ?_⟩
  cases howner : store.owner? p with
  | none =>
    have hmem := (mem_filter_ancestors hdirectories hp).2
      ⟨h.isBelow, h.ne_root, h.isDirectory, h.not_file⟩
    rw [List.getLast?_eq_none_iff.1 howner] at hmem
    cases hmem
  | some o' =>
    have h' := isClosestFolder_of_owner? hdirectories hp howner
    rw [h'.unique hdirectories hp h]

end Canonical

/-! ## The nodes of the tree -/

section Nodes

variable (hnodup : store.directories.Nodup) (hcanonical : ∀ p ∈ store.treePaths, Path.IsCanonical p)
include hcanonical

theorem children_subtree (p : String) :
    (store.subtree p).children = store.hanging (some p) := by
  rw [subtree_eq hcanonical, nodeAt]
  split
  next file hfile => rw [hanging_eq_nil (Table.mem_keys_of_get? hfile), ProjectNode.children]
  · rfl

theorem preorder_subtree (p : String) :
    (store.subtree p).preorder =
      store.subtree p :: (store.treePaths.filter (store.owner? · = some p)).flatMap fun q =>
        (store.subtree q).preorder := by
  rw [ProjectNode.preorder_eq, children_subtree hcanonical, ProjectNode.preorderAll_eq_flatMap,
    hanging, List.flatMap_map]

include hnodup

/-- **Every path has one node in the tree.** -/
theorem perm_preorderAll_tree :
    (ProjectNode.preorderAll store.tree).Perm (store.treePaths.map store.subtree) := by
  rw [tree_eq_hanging hnodup hcanonical, ProjectNode.preorderAll_eq_flatMap, hanging,
    List.flatMap_map, ← unowned_treePaths]
  exact perm_flatMap_unowned hnodup hcanonical (fun p _ => preorder_subtree hcanonical p)
    (List.nil_append _).symm

end Nodes

/-! ## The tree as a whole -/

/-- The forest shows all that the store holds: `nodeOf` gives the node of every path. -/
structure Displays (store : Store) (nodeOf : String → ProjectNode) (forest : List ProjectNode) :
    Prop where
  /-- All directories but the root and all files are shown. -/
  mem_treePaths : ∀ p, p ∈ store.treePaths ↔
    (p ∈ store.directories ∧ p ≠ Path.root) ∨ p ∈ store.files.keys
  sorted : store.treePaths.Pairwise (· < ·)
  /-- Every path has one node, and there are no others. -/
  once : (ProjectNode.preorderAll forest).Perm (store.treePaths.map nodeOf)
  info : ∀ p ∈ store.treePaths, (nodeOf p).info = (store.draftAt p).info
  kind : ∀ p ∈ store.treePaths, (nodeOf p).info.kind = .file ↔ p ∈ store.files.keys
  owner : ∀ p ∈ store.treePaths, ∀ o, store.owner? p = some o ↔ store.IsClosestFolder p o
  /-- At the top stand in order the paths without owner. -/
  roots : forest = (store.treePaths.filter (store.owner? · = none)).map nodeOf
  /-- The children are in order those whose owner the path is. -/
  children : ∀ p ∈ store.treePaths,
    (nodeOf p).children = (store.treePaths.filter (store.owner? · = some p)).map nodeOf

/-- **The tree of a store shows all that the store holds, damaged or not.** The single pass over
the paths reaches the last one and builds the tree. In it every directory but the root and every
file has exactly one node, a file whenever there is a file at the path. A node hangs on the closest
directory above it that is neither the root nor a file, or stands at the top if there is none, and
siblings are in path order. -/
theorem displays_tree (hnodup : store.directories.Nodup)
    (hdirectories : ∀ d ∈ store.directories, Path.IsCanonical d)
    (hfiles : ∀ f ∈ store.files.keys, Path.IsCanonical f) :
    ∃ assembly nodeOf, store.assemble? = some assembly ∧ assembly.Reads nodeOf store.tree ∧
      store.Displays nodeOf store.tree := by
  have hmem (p : String) : p ∈ store.treePaths ↔
      (p ∈ store.directories ∧ p ≠ Path.root) ∨ p ∈ store.files.keys := by
    rw [mem_treePaths, isFolder_iff]
    tauto
  have hcanonical : ∀ p ∈ store.treePaths, Path.IsCanonical p := by
    intro p hp
    rcases (hmem p).1 hp with ⟨hp, -⟩ | hp
    · exact hdirectories p hp
    · exact hfiles p hp
  obtain ⟨assembly, hassemble, hstands⟩ := exists_assemble? hnodup hcanonical
  refine ⟨assembly, store.subtree, hassemble, hstands.reads hnodup hcanonical, ?_⟩
  have hinfo (p : String) : (store.subtree p).info = (store.draftAt p).info := by
    rw [subtree, info_nodeAt, info_draftAt]
  exact {
    mem_treePaths := hmem
    sorted := pairwise_treePaths hnodup
    once := perm_preorderAll_tree hnodup hcanonical
    info := fun p _ => hinfo p
    kind := fun p _ => by rw [hinfo, kind_draftAt_eq_file]
    owner := fun p hp o => owner?_eq_some_iff hdirectories (hcanonical p hp)
    roots := tree_eq_hanging hnodup hcanonical
    children := fun p _ => children_subtree hcanonical p }

/-- A store without its root directory, with a file below no directory but one far above it, a
directory that is also a file, and a file below that one. -/
def damaged : Store where
  directories := ["/a", "/a/b/c", "/f"]
  files := .ofList [("/a/b/x", ⟨"1", none, none⟩), ("/f", ⟨"2", none, none⟩),
    ("/f/y", ⟨"3", none, none⟩)]
  cwd := "/gone"
  revision := 0

theorem displays_tree_damaged :
    damaged.directories.Nodup ∧ (∀ d ∈ damaged.directories, Path.IsCanonical d) ∧
      (∀ f ∈ damaged.files.keys, Path.IsCanonical f) ∧
      damaged.IsClosestFolder "/a/b/x" "/a" ∧ damaged.owner? "/f/y" = none ∧
      ∃ assembly nodeOf, damaged.assemble? = some assembly ∧
        assembly.Reads nodeOf damaged.tree ∧ damaged.Displays nodeOf damaged.tree := by
  have hnodup : damaged.directories.Nodup := by decide
  have hdirectories : ∀ d ∈ damaged.directories, Path.IsCanonical d := by decide
  have hfiles : ∀ f ∈ damaged.files.keys, Path.IsCanonical f := by decide
  obtain ⟨assembly, nodeOf, hassemble, hreads, hdisplays⟩ :=
    displays_tree hnodup hdirectories hfiles
  have hshown : "/a/b/x" ∈ damaged.treePaths := (hdisplays.mem_treePaths _).2 (by decide)
  have hclosest := (hdisplays.owner _ hshown "/a").1 (by decide +kernel)
  exact ⟨hnodup, hdirectories, hfiles, hclosest, by decide +kernel, assembly, nodeOf, hassemble,
    hreads, hdisplays⟩

end Store
end EditorShell

import EditorShell.Proofs.Project.Export
import EditorShell.Proofs.Project.RoundTrip
import EditorShell.Proofs.Project.WellNamed

/-!
# The normal form of a project tree

What a store shows of a tree that was imported is the tree in normal form: siblings in the order of
their names, folders by their paths and with a list of children, files with a text, an identity and
no children. The export sorts all paths at once and hangs each on its parent. That this is the same
comes from the children of one directory (`hanging_eq_normalForm`): they are the paths of the store
whose parent it is, paths with one parent are ordered as their names are, and an order leaves no
choice among lists with the same elements. From there the proof goes down the tree.
-/

namespace EditorShell

namespace ProjectNode

/-- The node of an entry in normal form, given its children. -/
def normalNodeOf (entry : TreeEntry) (children : List ProjectNode) : ProjectNode :=
  match entry.2.kind with
  | .folder => .branch ⟨entry.1, entry.2.name, .folder, none, none⟩ children
  | .file => .leaf ⟨idOr entry.1 (some entry.2.id), entry.2.name, .file,
      some (entry.2.content.getD ""), entry.2.mimeType⟩

/-- Siblings in code point order of their names. -/
def byName (nodes : List ProjectNode) : List ProjectNode :=
  nodes.mergeSort fun a b => decide (a.info.name ≤ b.info.name)

mutual

/-- The normal form of a node in the directory `parent`. -/
def normalNode (parent : String) : ProjectNode → ProjectNode
  | .leaf info => normalNodeOf (Path.child parent info.name, info) []
  | .branch info children =>
    normalNodeOf (Path.child parent info.name, info)
      (byName (normalNodes (Path.child parent info.name) children))

/-- The normal forms of siblings, in the order in which they come. -/
def normalNodes (parent : String) : List ProjectNode → List ProjectNode
  | [] => []
  | node :: nodes => normalNode parent node :: normalNodes parent nodes

end

/-- The normal form of a tree in the directory `parent`. -/
def normalForm (parent : String) (nodes : List ProjectNode) : List ProjectNode :=
  byName (normalNodes parent nodes)

variable {d : String} {nodes : List ProjectNode}

theorem byName_perm (nodes : List ProjectNode) : (byName nodes).Perm nodes :=
  List.mergeSort_perm nodes _

theorem pairwise_byName (nodes : List ProjectNode) :
    (byName nodes).Pairwise fun a b => a.info.name ≤ b.info.name :=
  Text.pairwise_mergeSort_key (·.info.name) nodes

/-- Siblings with different names can be put in order in one way only. -/
theorem eq_byName {sorted : List ProjectNode} (hperm : sorted.Perm nodes)
    (hnodup : (nodes.map (·.info.name)).Nodup)
    (hsorted : sorted.Pairwise fun a b => a.info.name ≤ b.info.name) : sorted = byName nodes := by
  refine List.Perm.eq_of_pairwise (fun a b ha hb hab hba => ?_) hsorted (pairwise_byName nodes)
    (hperm.trans (byName_perm nodes).symm)
  exact List.inj_on_of_nodup_map hnodup (hperm.mem_iff.1 ha) ((byName_perm nodes).mem_iff.1 hb)
    (String.le_antisymm hab hba)

theorem normalNodes_eq_map (parent : String) (nodes : List ProjectNode) :
    normalNodes parent nodes = nodes.map (normalNode parent) := by
  induction nodes with
  | nil => rfl
  | cons n ns ih => simp [normalNodes, ih]

theorem normalNode_eq (parent : String) (n : ProjectNode) :
    normalNode parent n =
      normalNodeOf (n.entry parent) (normalForm (n.entry parent).1 n.nodesBelow) := by
  cases n with
  | leaf info =>
    have hnil : normalForm (Path.child parent info.name) [] = [] := by
      simp [normalForm, normalNodes, byName]
    simp only [normalNode, entry, ProjectNode.info, nodesBelow, hnil]
  | branch info children =>
    simp only [normalNode, entry, ProjectNode.info, nodesBelow, normalNodeOf]
    cases info.kind <;> rfl

@[simp] theorem name_normalNodeOf (entry : TreeEntry) (children : List ProjectNode) :
    (normalNodeOf entry children).info.name = entry.2.name := by
  unfold normalNodeOf
  split <;> rfl

theorem map_name_normalNodes (parent : String) (nodes : List ProjectNode) :
    (normalNodes parent nodes).map (·.info.name) = nodes.map (·.info.name) := by
  rw [normalNodes_eq_map, List.map_map]
  refine List.map_congr_left fun n _ => ?_
  rw [Function.comp_apply, normalNode_eq, name_normalNodeOf, entry]

end ProjectNode

namespace Store

open ProjectNode (WellNamed entriesAll normalForm normalNode normalNodeOf)

variable {store : Store} {entries : List TreeEntry} {nodes : List ProjectNode} {d p : String}

namespace Holds

/-- The nodes of a store are its entries in normal form. -/
theorem nodeAt_eq (h : store.Holds entries) (hwell : WellFormed store)
    (hnames : ∀ e ∈ entries, Path.name e.1 = e.2.name) {e : TreeEntry} (he : e ∈ entries)
    (children : List ProjectNode) : store.nodeAt e.1 children = normalNodeOf e children := by
  rw [nodeAt, normalNodeOf, hnames e he]
  cases hkind : e.2.kind with
  | folder =>
    have hdir : e.1 ∈ store.directories := (h.mem_directories_iff e.1).2 (.inr ⟨e, he, hkind, rfl⟩)
    rw [Table.get?_eq_none_iff.2 fun hfile => hwell.not_both _ hfile hdir]
  | file =>
    rw [(h.get?_eq_some_iff e.1 _).2 ⟨e, he, hkind, rfl, rfl⟩]
    simp [Importing.fileOf]

theorem mem_treePaths_iff (h : store.Holds entries) (hwell : WellFormed store)
    (hroot : ∀ e ∈ entries, e.1 ≠ Path.root) :
    p ∈ store.treePaths ↔ ∃ e ∈ entries, e.1 = p := by
  have hkeys : p ∈ store.files.keys ↔ ∃ e ∈ entries, e.2.kind = .file ∧ e.1 = p := by
    rw [← Table.get?_isSome_iff, Option.isSome_iff_exists]
    simp only [h.get?_eq_some_iff]
    exact ⟨fun ⟨_, e, he, hkind, heq, _⟩ => ⟨e, he, hkind, heq⟩,
      fun ⟨e, he, hkind, heq⟩ => ⟨_, e, he, hkind, heq, rfl⟩⟩
  rw [mem_treePaths, isFolder_iff]
  constructor
  · rintro (⟨hne, hdir, -⟩ | hfile)
    · obtain hroot | ⟨e, he, -, heq⟩ := (h.mem_directories_iff p).1 hdir
      · exact absurd hroot hne
      · exact ⟨e, he, heq⟩
    · obtain ⟨e, he, -, heq⟩ := hkeys.1 hfile
      exact ⟨e, he, heq⟩
  · rintro ⟨e, he, rfl⟩
    cases hkind : e.2.kind with
    | folder =>
      have hdir := (h.mem_directories_iff e.1).2 (.inr ⟨e, he, hkind, rfl⟩)
      exact .inl ⟨hroot e he, hdir, fun hfile => hwell.not_both _ hfile hdir⟩
    | file => exact .inr (hkeys.2 ⟨e, he, hkind, rfl⟩)

end Holds

/-- Below the directory `d` the store shows the entries of `nodes` and nothing else. -/
structure Shows (store : Store) (d : String) (nodes : List ProjectNode) : Prop where
  mem_iff : ∀ p, p ∈ store.treePaths ∧ Path.isBelow p d = true ↔ ∃ e ∈ entriesAll d nodes, e.1 = p
  nodeAt_eq : ∀ e ∈ entriesAll d nodes, ∀ children,
    store.nodeAt e.1 children = normalNodeOf e children

theorem name_subtree (hcanonical : ∀ p ∈ store.treePaths, Path.IsCanonical p) (p : String) :
    (store.subtree p).info.name = Path.name p := by
  rw [subtree_eq hcanonical, info_nodeAt, name_entryAt]

namespace Shows

variable (h : store.Shows d nodes) (hnodes : WellNamed nodes) (hd : Path.IsCanonical d)
  (hwell : WellFormed store)
include h hnodes hd hwell

/-- Below a node it shows what is below the node. -/
theorem nodesBelow {n : ProjectNode} (hn : n ∈ nodes) :
    store.Shows (n.entry d).1 n.nodesBelow where
  mem_iff p := by
    have hpath := Path.isCanonical_child hd (hnodes.isSegment n hn)
    constructor
    · rintro ⟨hmem, hbelow⟩
      have hp := hwell.isCanonical_of_mem_treePaths hmem
      have hpd := Path.isBelow_trans hp hpath hd hbelow
        (Path.isBelow_child_self hd (hnodes.isSegment n hn))
      obtain ⟨e, he, rfl⟩ := (h.mem_iff p).1 ⟨hmem, hpd⟩
      obtain ⟨m, hm, hentry⟩ := ProjectNode.mem_entriesAll.1 he
      have hin : Path.isWithin e.1 (m.entry d).1 = true :=
        hnodes.isWithin hd hm (by rw [ProjectNode.entries_eq, List.mem_cons]; exact hentry)
      have hname := Path.name_eq_of_isWithin_child hp hd (hnodes.isSegment m hm)
        (hnodes.isSegment n hn) hin (Path.isWithin_iff.2 (.inr hbelow))
      obtain rfl := List.inj_on_of_nodup_map hnodes.nodup hm hn hname
      rcases hentry with rfl | hentry
      · simp at hbelow
      · exact ⟨e, hentry, rfl⟩
    · rintro ⟨e, he, rfl⟩
      exact ⟨((h.mem_iff e.1).2 ⟨e, ProjectNode.mem_entriesAll.2 ⟨n, hn, .inr he⟩, rfl⟩).1,
        (hnodes.nodesBelow n hn).isBelow hpath he⟩
  nodeAt_eq e he := h.nodeAt_eq e (ProjectNode.mem_entriesAll.2 ⟨n, hn, .inr he⟩)

/-- The paths whose parent is `d` are those of the nodes. -/
theorem perm_children :
    (store.treePaths.filter (Path.parent · = d)).Perm (nodes.map fun n => (n.entry d).1) := by
  have hinj : (nodes.map fun n => (n.entry d).1).Nodup := by
    refine (List.nodup_map_iff_inj_on hnodes.nodup.of_map).2 fun n hn m hm heq => ?_
    refine List.inj_on_of_nodup_map hnodes.nodup hn hm ?_
    rw [← Path.name_child hd (hnodes.isSegment n hn), ← Path.name_child hd (hnodes.isSegment m hm)]
    exact congrArg Path.name heq
  refine (List.perm_ext_iff_of_nodup ((nodup_treePaths hwell.nodup).filter _) hinj).2 fun p => ?_
  rw [List.mem_filter, decide_eq_true_eq, List.mem_map]
  constructor
  · rintro ⟨hmem, hparent⟩
    have hp := hwell.isCanonical_of_mem_treePaths hmem
    have hbelow := Path.isBelow_parent hp (hwell.ne_root_of_mem_treePaths hmem)
    obtain ⟨e, he, rfl⟩ := (h.mem_iff p).1 ⟨hmem, hparent ▸ hbelow⟩
    obtain ⟨n, hn, rfl | hentry⟩ := ProjectNode.mem_entriesAll.1 he
    · exact ⟨n, hn, rfl⟩
    · -- what is below a node has its parent within the path of the node, and `d` is not there
      have hpath := Path.isCanonical_child hd (hnodes.isSegment n hn)
      have hin := Path.isWithin_parent hp hpath ((hnodes.nodesBelow n hn).isBelow hpath hentry)
      rw [hparent, Path.isWithin_eq_false_of_isBelow hpath hd
        (Path.isBelow_child_self hd (hnodes.isSegment n hn))] at hin
      cases hin
  · rintro ⟨n, hn, rfl⟩
    exact ⟨((h.mem_iff _).2 ⟨_, ProjectNode.entry_mem_entriesAll hn, rfl⟩).1,
      Path.parent_child hd (hnodes.isSegment n hn)⟩

end Shows

/-- Siblings are in the order of their names, because paths with one parent are. -/
theorem pairwise_name_children (hwell : WellFormed store) (d : String) :
    ((store.treePaths.filter (Path.parent · = d)).map store.subtree).Pairwise
      fun a b => a.info.name ≤ b.info.name := by
  have hcanonical : ∀ p ∈ store.treePaths, Path.IsCanonical p :=
    fun _ => hwell.isCanonical_of_mem_treePaths
  refine List.pairwise_map.2 <|
    ((pairwise_treePaths hwell.nodup).filter _).imp_of_mem fun {p q} hp hq hlt => ?_
  rw [List.mem_filter, decide_eq_true_eq] at hp hq
  rw [name_subtree hcanonical, name_subtree hcanonical]
  by_contra hnot
  have hlt' := Path.child_lt_child d (not_le.1 hnot)
  rw [← hp.2, Path.child_parent_name (hcanonical p hp.1) (hwell.ne_root_of_mem_treePaths hp.1),
    hp.2, ← hq.2, Path.child_parent_name (hcanonical q hq.1) (hwell.ne_root_of_mem_treePaths hq.1)]
    at hlt'
  exact lt_asymm hlt hlt'

/-- **The nodes that hang on a directory are those of the tree in normal form.** -/
theorem Shows.hanging_eq_normalForm (h : store.Shows d nodes) (hnodes : WellNamed nodes)
    (hd : Path.IsCanonical d) (hwell : WellFormed store) :
    store.hanging (if d = Path.root then none else some d) = normalForm d nodes := by
  induction hnodes generalizing d with
  | @intro nodes isSegment nodup below ih =>
    have hnodes : WellNamed nodes := ⟨isSegment, nodup, below⟩
    have hnode : ∀ n ∈ nodes, store.subtree (n.entry d).1 = normalNode d n := by
      intro n hn
      have hne : (n.entry d).1 ≠ Path.root := Path.child_ne_root hd (isSegment n hn)
      have hbelow := ih n hn (h.nodesBelow hnodes hd hwell hn)
        (Path.isCanonical_child hd (isSegment n hn))
      rw [if_neg hne] at hbelow
      rw [subtree_eq fun _ => hwell.isCanonical_of_mem_treePaths, ProjectNode.normalNode_eq,
        ← hbelow]
      exact h.nodeAt_eq _ (ProjectNode.entry_mem_entriesAll hn) _
    have howner : store.treePaths.filter
        (store.owner? · = if d = Path.root then none else some d) =
          store.treePaths.filter (Path.parent · = d) := by
      refine List.filter_congr fun p hp => ?_
      rw [hwell.owner?_eq hp]
      split_ifs <;> grind
    rw [hanging, howner]
    refine ProjectNode.eq_byName ?_ ?_ (pairwise_name_children hwell d)
    · refine ((h.perm_children hnodes hd hwell).map store.subtree).trans (.of_eq ?_)
      rw [List.map_map, ProjectNode.normalNodes_eq_map]
      exact List.map_congr_left hnode
    · rwa [ProjectNode.map_name_normalNodes]

/-- **What comes out of a well-named tree is its normal form:** nothing is passed over by the
import, the export of what is built is the normal form of the tree, and a tree in which siblings
were permuted on any levels builds the same store. -/
theorem tree_ofTree_eq_normalForm (tree : List ProjectNode) (h : WellNamed tree) :
    (empty.load tree).warnings = [] ∧ (ofTree tree).tree = normalForm Path.root tree ∧
      ∀ reordered, ProjectNode.Reordered tree reordered →
        (ofTree tree).Same (ofTree reordered) := by
  have hroot := Path.isCanonical_root
  have hwell := wellFormed_ofTree tree
  obtain ⟨hwarnings, hholds⟩ := load_of_wellNamed h
  refine ⟨hwarnings, ?_, fun reordered hreordered => ?_⟩
  · have hshows : (ofTree tree).Shows Path.root tree := by
      refine ⟨fun p => ?_, fun e => hholds.nodeAt_eq hwell fun e => h.name_eq hroot⟩
      rw [hholds.mem_treePaths_iff hwell fun e => h.ne hroot]
      refine and_iff_left_of_imp ?_
      rintro ⟨e, he, rfl⟩
      exact h.isBelow hroot he
    rw [tree_eq_hanging hwell.nodup fun _ => hwell.isCanonical_of_mem_treePaths]
    exact hshows.hanging_eq_normalForm h hroot hwell
  · exact hholds.same
      ((load_of_wellNamed (hreordered.wellNamed h)).2.perm (hreordered.perm_entriesAll _).symm)

/-- A folder with a text and a type, in which a file without text or identity comes before a folder
without children, and a file that has children. -/
def unsorted : List ProjectNode :=
  [.branch ⟨"1", "d", .folder, some "x", some "text/plain"⟩
      [.leaf ⟨"", "b", .file, none, none⟩, .leaf ⟨"2", "a", .folder, none, none⟩],
    .branch ⟨"3", "c", .file, some "y", none⟩ [.leaf ⟨"4", "..", .file, none, none⟩]]

theorem wellNamed_unsorted : WellNamed unsorted := by
  have hnil : WellNamed [] := ⟨by simp, by simp, by simp⟩
  refine ⟨by decide, by decide, ?_⟩
  simp only [unsorted, List.forall_mem_cons, ProjectNode.nodesBelow, List.not_mem_nil,
    false_imp_iff, implies_true, and_true]
  refine ⟨⟨by decide, by decide, ?_⟩, hnil⟩
  simpa only [List.forall_mem_cons, ProjectNode.nodesBelow, List.not_mem_nil, false_imp_iff,
    implies_true, and_true, and_self] using hnil

theorem tree_ofTree_eq_normalForm_unsorted :
    WellNamed unsorted ∧
      (ofTree unsorted).tree =
        [.leaf ⟨"3", "c", .file, some "y", none⟩,
          .branch ⟨"/d", "d", .folder, none, none⟩
            [.branch ⟨"/d/a", "a", .folder, none, none⟩ [],
              .leaf ⟨"/d/b", "b", .file, some "", none⟩]] ∧
      (ofTree unsorted).Same (ofTree unsorted.reverse) := by
  obtain ⟨-, htree, hsame⟩ := tree_ofTree_eq_normalForm unsorted wellNamed_unsorted
  refine ⟨wellNamed_unsorted, ?_, hsame _ (.siblings unsorted.reverse_perm.symm)⟩
  have hbelow : ProjectNode.byName
      [.leaf ⟨"/d/b", "b", .file, some "", none⟩, .branch ⟨"/d/a", "a", .folder, none, none⟩ []] =
        [.branch ⟨"/d/a", "a", .folder, none, none⟩ [],
          .leaf ⟨"/d/b", "b", .file, some "", none⟩] :=
    (ProjectNode.eq_byName (by decide) (by decide) (by decide)).symm
  have hnodup : ((ProjectNode.normalNodes Path.root unsorted).map (·.info.name)).Nodup := by
    rw [ProjectNode.map_name_normalNodes]
    decide
  rw [htree, normalForm]
  refine (ProjectNode.eq_byName ?_ hnodup ?_).symm
  · rw [← hbelow]
    exact .swap _ _ []
  · decide

end Store
end EditorShell

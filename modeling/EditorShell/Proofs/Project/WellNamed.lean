import EditorShell.Proofs.Project.Import

/-!
# Well-named trees

A tree is well named if, on each of its levels, the names are segments and all different. The
entries of such a tree are the directories and files of a well-formed store (`wellFormed_ofEntries`),
so its import has nothing in its way and what is built holds these entries and nothing else
(`load_of_wellNamed`). In which order siblings come has no part in this
(`Reordered.perm_entriesAll`).
-/

namespace EditorShell

namespace ProjectNode

variable {nodes nodes' : List ProjectNode} {d : String} {entry : TreeEntry}

/-- On each level the names are segments, and no two siblings share one. -/
inductive WellNamed : List ProjectNode → Prop where
  | intro {nodes : List ProjectNode} (isSegment : ∀ n ∈ nodes, Path.IsSegment n.info.name)
    (nodup : (nodes.map (·.info.name)).Nodup) (below : ∀ n ∈ nodes, WellNamed n.nodesBelow) :
    WellNamed nodes

/-- Siblings are permuted, on any levels. -/
inductive Reordered : List ProjectNode → List ProjectNode → Prop where
  | siblings {nodes nodes' : List ProjectNode} : nodes.Perm nodes' → Reordered nodes nodes'
  | children {info : NodeInfo} {cs cs' : List ProjectNode} (before after : List ProjectNode) :
    Reordered cs cs' →
      Reordered (before ++ .branch info cs :: after) (before ++ .branch info cs' :: after)
  | trans {nodes nodes' nodes'' : List ProjectNode} : Reordered nodes nodes' →
    Reordered nodes' nodes'' → Reordered nodes nodes''

theorem mem_entriesAll :
    entry ∈ entriesAll d nodes ↔
      ∃ n ∈ nodes, entry = n.entry d ∨ entry ∈ entriesAll (n.entry d).1 n.nodesBelow := by
  simp only [entriesAll_eq_flatMap d nodes, List.mem_flatMap, entries_eq, List.mem_cons]

theorem entry_mem_entriesAll {n : ProjectNode} (hn : n ∈ nodes) :
    n.entry d ∈ entriesAll d nodes :=
  mem_entriesAll.2 ⟨n, hn, .inl rfl⟩

/-! ## The paths of a well-named tree -/

namespace WellNamed

theorem isSegment (h : WellNamed nodes) : ∀ n ∈ nodes, Path.IsSegment n.info.name := by
  cases h with
  | intro isSegment nodup below => exact isSegment

theorem nodup (h : WellNamed nodes) : (nodes.map (·.info.name)).Nodup := by
  cases h with
  | intro isSegment nodup below => exact nodup

theorem nodesBelow (h : WellNamed nodes) : ∀ n ∈ nodes, WellNamed n.nodesBelow := by
  cases h with
  | intro isSegment nodup below => exact below

/-- An entry is a child, of the directory of the tree or of a folder of the tree. -/
theorem exists_parent (h : WellNamed nodes) (hd : Path.IsCanonical d)
    (hentry : entry ∈ entriesAll d nodes) :
    Path.IsSegment entry.2.name ∧ ∃ p, Path.IsCanonical p ∧ Path.isWithin p d = true ∧
      entry.1 = Path.child p entry.2.name ∧
      (p = d ∨ ∃ e ∈ entriesAll d nodes, e.2.kind = .folder ∧ e.1 = p) := by
  induction h generalizing d with
  | @intro nodes isSegment nodup below ih =>
    obtain ⟨n, hn, rfl | hbelow⟩ := mem_entriesAll.1 hentry
    · exact ⟨isSegment n hn, d, hd, Path.isWithin_self d, rfl, .inl rfl⟩
    · have hpath := Path.isCanonical_child hd (isSegment n hn)
      have hin := Path.isWithin_iff.2 (.inr (Path.isBelow_child_self hd (isSegment n hn)))
      have hkind : n.info.kind = .folder := by
        cases hkind : n.info.kind with
        | folder => rfl
        | file =>
          rw [nodesBelow_eq_nil hkind] at hbelow
          simp [entriesAll] at hbelow
      obtain ⟨hname, p, hp, hpin, heq, hfolder⟩ := ih n hn hpath hbelow
      refine ⟨hname, p, hp, Path.isWithin_trans hp hpath hd hpin hin, heq, .inr ?_⟩
      rcases hfolder with rfl | ⟨e, he, hfolder⟩
      · exact ⟨n.entry d, entry_mem_entriesAll hn, hkind, rfl⟩
      · exact ⟨e, mem_entriesAll.2 ⟨n, hn, .inr he⟩, hfolder⟩

theorem isCanonical (h : WellNamed nodes) (hd : Path.IsCanonical d)
    (hentry : entry ∈ entriesAll d nodes) : Path.IsCanonical entry.1 := by
  obtain ⟨hname, p, hp, -, heq, -⟩ := h.exists_parent hd hentry
  exact heq ▸ Path.isCanonical_child hp hname

theorem isBelow (h : WellNamed nodes) (hd : Path.IsCanonical d)
    (hentry : entry ∈ entriesAll d nodes) : Path.isBelow entry.1 d = true := by
  obtain ⟨hname, p, hp, hin, heq, -⟩ := h.exists_parent hd hentry
  rwa [heq, Path.isBelow_child hp hname hd]

theorem ne (h : WellNamed nodes) (hd : Path.IsCanonical d) (hentry : entry ∈ entriesAll d nodes) :
    entry.1 ≠ d := by
  intro heq
  have hbelow := h.isBelow hd hentry
  rw [heq, Path.isBelow_self] at hbelow
  cases hbelow

theorem name_eq (h : WellNamed nodes) (hd : Path.IsCanonical d)
    (hentry : entry ∈ entriesAll d nodes) : Path.name entry.1 = entry.2.name := by
  obtain ⟨hname, p, hp, -, heq, -⟩ := h.exists_parent hd hentry
  rw [heq, Path.name_child hp hname]

/-- What a node spells lies within its own path. -/
theorem isWithin (h : WellNamed nodes) (hd : Path.IsCanonical d) {n : ProjectNode} (hn : n ∈ nodes)
    (hentry : entry ∈ entries d n) : Path.isWithin entry.1 (n.entry d).1 = true := by
  rw [entries_eq, List.mem_cons] at hentry
  rcases hentry with rfl | hentry
  · exact Path.isWithin_self _
  · exact Path.isWithin_iff.2 (.inr ((h.nodesBelow n hn).isBelow
      (Path.isCanonical_child hd (h.isSegment n hn)) hentry))

/-- **No two nodes of a well-named tree spell the same path.** -/
theorem nodup_entriesAll (h : WellNamed nodes) (hd : Path.IsCanonical d) :
    ((entriesAll d nodes).map Prod.fst).Nodup := by
  induction h generalizing d with
  | @intro nodes isSegment nodup below ih =>
    have hwell : WellNamed nodes := ⟨isSegment, nodup, below⟩
    rw [entriesAll_eq_flatMap, List.map_flatMap, List.nodup_flatMap]
    constructor
    · intro n hn
      have hpath := Path.isCanonical_child hd (isSegment n hn)
      rw [entries_eq, List.map_cons, List.nodup_cons]
      refine ⟨fun hmem => ?_, ih n hn hpath⟩
      obtain ⟨e, he, heq⟩ := List.mem_map.1 hmem
      have hbelow := (below n hn).isBelow hpath he
      rw [heq] at hbelow
      exact absurd hbelow (by simp [entry])
    · refine (List.pairwise_map.1 nodup).imp_of_mem fun {a b} ha hb hne => ?_
      -- what two siblings spell lies within different children of `d`
      refine List.disjoint_left.2 fun p hpa hpb => ?_
      obtain ⟨e, he, rfl⟩ := List.mem_map.1 hpa
      obtain ⟨e', he', heq⟩ := List.mem_map.1 hpb
      have hpin := hwell.isWithin hd ha he
      have hcanonical := hwell.isCanonical hd
        (entriesAll_eq_flatMap d nodes ▸ List.mem_flatMap.2 ⟨a, ha, he⟩)
      exact hne (Path.name_eq_of_isWithin_child hcanonical hd (isSegment a ha) (isSegment b hb) hpin
        (heq ▸ hwell.isWithin hd hb he'))

end WellNamed

/-! ## Reordering -/

namespace Reordered

theorem perm_entriesAll (h : Reordered nodes nodes') (d : String) :
    (entriesAll d nodes).Perm (entriesAll d nodes') := by
  induction h generalizing d with
  | siblings h =>
    rw [entriesAll_eq_flatMap, entriesAll_eq_flatMap]
    exact h.flatMap_right _
  | @children info cs cs' before after _ ih =>
    rw [entriesAll_eq_flatMap, entriesAll_eq_flatMap, List.flatMap_append, List.flatMap_append,
      List.flatMap_cons, List.flatMap_cons]
    refine .append_left _ (.append_right _ ?_)
    simp only [entries]
    cases info.kind with
    | folder => exact (ih _).cons _
    | file => exact .refl _
  | trans _ _ ih ih' => exact (ih d).trans (ih' d)

theorem wellNamed (h : Reordered nodes nodes') (hnodes : WellNamed nodes) : WellNamed nodes' := by
  induction h with
  | siblings h =>
    exact ⟨fun n hn => hnodes.isSegment n (h.mem_iff.2 hn), (h.map _).nodup_iff.1 hnodes.nodup,
      fun n hn => hnodes.nodesBelow n (h.mem_iff.2 hn)⟩
  | @children info cs cs' before after _ ih =>
    have hname := hnodes.isSegment
    have hnodup := hnodes.nodup
    have hbelow := hnodes.nodesBelow
    simp only [List.forall_mem_append, List.forall_mem_cons, List.map_append, List.map_cons,
      ProjectNode.info] at hname hnodup hbelow
    refine ⟨?_, ?_, ?_⟩ <;> simp only [List.forall_mem_append, List.forall_mem_cons,
      List.map_append, List.map_cons, ProjectNode.info]
    · exact hname
    · exact hnodup
    · refine ⟨hbelow.1, ?_, hbelow.2.2⟩
      have hcs := hbelow.2.1
      simp only [ProjectNode.nodesBelow] at hcs ⊢
      split at hcs
      · exact ih hcs
      · exact hcs
  | trans _ _ ih ih' => exact ih' (ih hnodes)

end Reordered

end ProjectNode

/-! ## The store of a well-named tree -/

namespace Store

variable {store other : Store} {entries : List TreeEntry} {tree : List ProjectNode}

/-- The store has a directory for each folder entry, a file for each file entry, and nothing else
but the root; each file counts as one change, and clearing the store as one more. -/
structure Holds (store : Store) (entries : List TreeEntry) : Prop where
  mem_directories_iff : ∀ d, d ∈ store.directories ↔
    d = Path.root ∨ ∃ e ∈ entries, e.2.kind = .folder ∧ e.1 = d
  get?_eq_some_iff : ∀ p file, store.files.get? p = some file ↔
    ∃ e ∈ entries, e.2.kind = .file ∧ e.1 = p ∧ Importing.fileOf e.2 none = file
  cwd_eq : store.cwd = Path.root
  revision_eq : store.revision = 1 + entries.countP (·.2.kind = .file)

namespace Holds

theorem perm {entries' : List TreeEntry} (h : store.Holds entries) (hperm : entries.Perm entries') :
    store.Holds entries' where
  mem_directories_iff d := by simp only [h.mem_directories_iff, hperm.mem_iff]
  get?_eq_some_iff p file := by simp only [h.get?_eq_some_iff, hperm.mem_iff]
  cwd_eq := h.cwd_eq
  revision_eq := by rw [h.revision_eq, hperm.countP_eq]

/-- Entries leave nothing of a store open. -/
theorem same (h : store.Holds entries) (h' : other.Holds entries) : store.Same other where
  mem_directories_iff d := by rw [h.mem_directories_iff, h'.mem_directories_iff]
  get?_eq p := by
    refine Option.ext fun file => ?_
    rw [h.get?_eq_some_iff, h'.get?_eq_some_iff]
  cwd_eq := by rw [h.cwd_eq, h'.cwd_eq]
  revision_eq := by rw [h.revision_eq, h'.revision_eq]

end Holds

/-- A store that holds entries with different paths. -/
def ofEntries (entries : List TreeEntry) (h : (entries.map Prod.fst).Nodup) : Store where
  directories := Path.root :: (entries.filter (·.2.kind = .folder)).map Prod.fst
  files := ⟨(entries.filter (·.2.kind = .file)).map fun e => (e.1, Importing.fileOf e.2 none), by
    rw [List.map_map]
    exact h.sublist (List.filter_sublist.map _)⟩
  cwd := Path.root
  revision := 1 + entries.countP (·.2.kind = .file)

theorem mem_directories_ofEntries {h : (entries.map Prod.fst).Nodup} {d : String} :
    d ∈ (ofEntries entries h).directories ↔
      d = Path.root ∨ ∃ e ∈ entries, e.2.kind = .folder ∧ e.1 = d := by
  simp [ofEntries, and_assoc]

theorem mem_keys_ofEntries {h : (entries.map Prod.fst).Nodup} {p : String} :
    p ∈ (ofEntries entries h).files.keys ↔ ∃ e ∈ entries, e.2.kind = .file ∧ e.1 = p := by
  simp [ofEntries, Table.keys, and_assoc]

section WellNamed

variable (h : ProjectNode.WellNamed tree)
include h

theorem wellFormed_ofEntries : WellFormed (ofEntries (ProjectNode.entriesAll Path.root tree)
    (h.nodup_entriesAll Path.isCanonical_root)) := by
  have hroot := Path.isCanonical_root
  have hnodup := h.nodup_entriesAll hroot
  have hne : ∀ e ∈ ProjectNode.entriesAll Path.root tree, e.1 ≠ Path.root := fun e => h.ne hroot
  have hdirs : (ofEntries _ hnodup).directories.Nodup := by
    refine List.nodup_cons.2 ⟨fun hmem => ?_, hnodup.sublist (List.filter_sublist.map _)⟩
    obtain ⟨e, he, heq⟩ := List.mem_map.1 hmem
    exact hne e (List.mem_filter.1 he).1 heq
  refine .of_parent_mem ?_ ?_ ?_ ?_ ?_ hdirs <;>
    simp only [mem_keys_ofEntries, mem_directories_ofEntries]
  · exact .inl trivial
  · exact .inl rfl
  · rintro p ⟨e, he, hfile, rfl⟩ (heq | ⟨e', he', hfolder, heq⟩)
    · exact hne e he heq
    · rw [List.inj_on_of_nodup_map hnodup he' he heq, hfile] at hfolder
      cases hfolder
  · intro p hp hproot
    have hentry : ∃ e ∈ ProjectNode.entriesAll Path.root tree, e.1 = p := by
      rcases hp with ⟨e, he, -, heq⟩ | heq | ⟨e, he, -, heq⟩
      · exact ⟨e, he, heq⟩
      · exact absurd heq hproot
      · exact ⟨e, he, heq⟩
    obtain ⟨e, he, rfl⟩ := hentry
    obtain ⟨hname, q, hq, -, heq, hparent⟩ := h.exists_parent hroot he
    rwa [heq, Path.parent_child hq hname]
  · rintro p (⟨e, he, -, rfl⟩ | rfl | ⟨e, he, -, rfl⟩)
    · exact h.isCanonical hroot he
    · exact hroot
    · exact h.isCanonical hroot he

theorem isEntryOf_ofEntries : ∀ e ∈ ProjectNode.entriesAll Path.root tree,
    Importing.IsEntryOf e (ofEntries (ProjectNode.entriesAll Path.root tree)
      (h.nodup_entriesAll Path.isCanonical_root)) := by
  intro e he
  refine ⟨(h.exists_parent Path.isCanonical_root he).1, ?_⟩
  split
  next hkind => exact mem_directories_ofEntries.2 (.inr ⟨e, he, hkind, rfl⟩)
  next hkind => exact mem_keys_ofEntries.2 ⟨e, he, hkind, rfl⟩

/-- **The import of a well-named tree passes nothing over,** and what is built holds the entries of
the tree. -/
theorem load_of_wellNamed :
    (empty.load tree).warnings = [] ∧
      (ofTree tree).Holds (ProjectNode.entriesAll Path.root tree) := by
  have hnodup := h.nodup_entriesAll Path.isCanonical_root
  have hwell := wellFormed_ofEntries h
  have hwithin := (hwell.within_clear empty).foldl_place hwell (isEntryOf_ofEntries h)
  obtain ⟨hwarnings, hdirs, hfiles, hrevision⟩ :=
    hwell.load_eq_foldl_place (isEntryOf_ofEntries h) empty
  have hfile : ∀ e ∈ ProjectNode.entriesAll Path.root tree, e.2.kind = .file →
      (ofTree tree).files.get? e.1 = some (Importing.fileOf e.2 none) := by
    intro e he hkind
    rw [ofTree, hfiles, Importing.get?_foldl_place hnodup he hkind]
    rfl
  refine ⟨hwarnings, fun d => ⟨fun hd => ?_, fun hd => ?_⟩, fun p file => ⟨fun hget => ?_, ?_⟩,
    cwd_ofTree tree, ?_⟩
  · rw [ofTree, hdirs] at hd
    exact mem_directories_ofEntries.1 (hwithin.directories hd)
  · rw [ofTree, hdirs]
    exact Importing.mem_directories_foldl_place (hd.imp_left List.mem_singleton.2)
  · have hp := Table.mem_keys_of_get? hget
    rw [ofTree, hfiles] at hp
    obtain ⟨e, he, hkind, rfl⟩ := mem_keys_ofEntries.1 (hwithin.keys hp)
    exact ⟨e, he, hkind, rfl, Option.some.inj ((hfile e he hkind).symm.trans hget)⟩
  · rintro ⟨e, he, hkind, rfl, rfl⟩
    exact hfile e he hkind
  · rw [ofTree, hrevision, Importing.revision_foldl_place]
    rfl

end WellNamed

end Store
end EditorShell

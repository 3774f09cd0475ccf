import EditorShell.Proofs.Project.Entries
import EditorShell.Proofs.Store.WellFormed
import EditorShell.Project.Import

/-!
# Importing project trees

Whatever a tree holds, what is built from it is well formed (`wellFormed_load`): the import goes
down into a node only when its name is a segment and its path is free, so it always stands in a
directory of the store.

As long as nothing stands in the way of a tree, its import places its entries one after the other
(`nodes_eq_foldl_place`). Nothing does if they are paths of one well-formed store
(`WellFormed.load_eq_foldl_place`), and then each file entry ends up as a file (`get?_foldl_place`).
-/

namespace EditorShell

namespace Importing

variable {state after : Importing} {parent : String} {info : NodeInfo}

/-! ## One entry -/

/-- Makes a directory or a file of an entry. -/
def place (state : Importing) (entry : TreeEntry) : Importing :=
  match entry.2.kind with
  | .folder => state.addDirectory entry.1
  | .file => state.addFile entry.1 entry.2

/-- Nothing stands in the way of the entry. -/
def Admits (state : Importing) (entry : TreeEntry) : Prop :=
  Path.IsSegment entry.2.name ∧
    match entry.2.kind with
    | .folder => entry.1 ∉ state.store.files.keys
    | .file => entry.1 ∉ state.store.directories

theorem mem_foldl_insert {d : String} {paths directories : List String} :
    d ∈ paths.foldl (fun ds d => ds.insert d) directories ↔ d ∈ paths ∨ d ∈ directories := by
  induction paths generalizing directories with
  | nil => simp
  | cons path paths ih => rw [List.foldl_cons, ih, List.mem_insert_iff]; grind

theorem foldl_insert_of_subset {paths directories : List String} (h : paths ⊆ directories) :
    paths.foldl (fun ds d => ds.insert d) directories = directories := by
  induction paths with
  | nil => rfl
  | cons path paths ih =>
    rw [List.foldl_cons, List.insert_of_mem (h List.mem_cons_self)]
    exact ih fun p hp => h (List.mem_cons_of_mem path hp)

@[simp] theorem warnings_place (state : Importing) (entry : TreeEntry) :
    (state.place entry).warnings = state.warnings := by
  unfold place
  split <;> rfl

theorem mem_directories_place {entry : TreeEntry} {d : String} :
    d ∈ (state.place entry).store.directories ↔ d ∈ state.store.directories ∨
      match entry.2.kind with
      | .folder => d = entry.1
      | .file => d ∈ Path.ancestors entry.1 := by
  unfold place
  split
  · simp [addDirectory, or_comm]
  · simp [addFile, mem_foldl_insert, or_comm]

theorem mem_keys_place {entry : TreeEntry} {p : String} :
    p ∈ (state.place entry).store.files.keys ↔
      p ∈ state.store.files.keys ∨ entry.2.kind = .file ∧ p = entry.1 := by
  unfold place
  split
  next hkind => simp [addDirectory, hkind]
  next hkind => simp [addFile, hkind]

/-- The file that a node makes of what is at its path already. -/
def fileOf (info : NodeInfo) (old : Option File) : File where
  content := info.content.getD ""
  mimeType := info.mimeType.or (old.bind (·.mimeType))
  nodeId := some info.id

theorem get?_place (state : Importing) (entry : TreeEntry) (p : String) :
    (state.place entry).store.files.get? p =
      if entry.2.kind = .file ∧ p = entry.1 then
        some (fileOf entry.2 (state.store.files.get? p))
      else state.store.files.get? p := by
  unfold place
  split
  next hkind => simp [addDirectory, hkind]
  next hkind =>
    by_cases hp : p = entry.1
    · cases h : state.store.files.get? entry.1 <;>
        simp [addFile, hkind, hp, Store.get?_setNodeId, h, fileOf, Store.updated]
    · simp [addFile, hkind, hp, Store.get?_setNodeId]

/-! ## Every tree -/

/-- A well-formed store has become one with at least the same directories. -/
structure Extends (state after : Importing) : Prop where
  wellFormed : after.store.WellFormed
  directories : state.store.directories ⊆ after.store.directories

theorem Extends.refl (h : state.store.WellFormed) : state.Extends state :=
  ⟨h, List.Subset.refl _⟩

theorem Extends.trans {middle : Importing} (h : state.Extends middle)
    (h' : middle.Extends after) : state.Extends after :=
  ⟨h'.wellFormed, List.Subset.trans h.directories h'.directories⟩

theorem Extends.warn (h : state.store.WellFormed) (warning : ImportWarning) :
    state.Extends (state.warn warning) :=
  ⟨h, List.Subset.refl _⟩

/-- A node that is admitted adds its entry to a store in which its parent is a directory. -/
theorem Extends.place (h : state.store.WellFormed) (hparent : parent ∈ state.store.directories)
    (hname : Path.IsSegment info.name)
    (hadmits : state.Admits (Path.child parent info.name, info)) :
    state.Extends (state.place (Path.child parent info.name, info)) := by
  obtain ⟨-, hfree⟩ := hadmits
  have hcanonical := h.canonical parent (.inr hparent)
  have hpath := Path.isCanonical_child hcanonical hname
  have hup := Path.parent_child hcanonical hname
  have habove : Path.ancestors (Path.child parent info.name) ⊆ state.store.directories := by
    rw [Path.ancestors_child hcanonical hname]
    intro a ha
    rcases List.mem_append.1 ha with ha | ha
    · exact h.ancestor_mem parent (.inr hparent) a ha
    · rwa [List.mem_singleton.1 ha]
  generalize Path.child parent info.name = path at hfree hpath hup habove ⊢
  rw [Importing.place]
  split
  next hkind =>
    rw [hkind] at hfree
    refine ⟨?_, fun d hd => List.mem_insert_of_mem hd⟩
    have hadd : (state.store.addDirectories [path]).WellFormed := by
      refine h.addDirectories fun d hd => ?_
      rw [List.mem_singleton.1 hd]
      exact ⟨hpath, hfree, fun _ => .inr (hup ▸ hparent)⟩
    -- the import does not count the directory; the counter has no part in being well formed
    exact { hadd with }
  next hkind =>
    rw [hkind] at hfree
    have hdirs : (state.addFile path info).store.directories = state.store.directories := by
      simp [addFile, foldl_insert_of_subset habove]
    refine ⟨h.of_files hdirs (by simp [addFile]) fun p hp => ?_, hdirs ▸ List.Subset.refl _⟩
    simp only [addFile, Store.mem_keys_setNodeId, Store.mem_keys_writeIn] at hp
    refine hp.imp_right fun hp => ?_
    rw [hp]
    exact ⟨hfree, hup ▸ hparent, hpath⟩

/-! ## One node -/

/-- A node in whose way something stands is passed over. -/
theorem node_of_not_admits {n : ProjectNode} (h : ¬state.Admits (n.entry parent)) :
    ∃ warning, state.node parent n = state.warn warning := by
  unfold Admits at h
  cases n <;> simp only [ProjectNode.entry, ProjectNode.info] at h <;> unfold node
  all_goals
    split
    · exact ⟨_, rfl⟩
    next hname =>
      rw [Bool.not_eq_true', decide_eq_false_iff_not, not_not] at hname
      split <;> simp_all

/-- A node that is admitted is placed, and then what is below it. -/
theorem node_of_admits {n : ProjectNode} (h : state.Admits (n.entry parent)) :
    state.node parent n = nodes (state.place (n.entry parent)) (n.entry parent).1 n.nodesBelow := by
  unfold Admits at h
  cases n <;> simp only [ProjectNode.entry, ProjectNode.info] at h ⊢ <;> unfold node
  all_goals
    rw [if_neg (by simpa using h.1)]
    split <;> simp_all [place, ProjectNode.nodesBelow, nodes]

/-- Nodes add to the store what they can, and the rest is passed over. -/
theorem extends_nodes (ns : List ProjectNode) : ∀ {state : Importing} {parent : String},
    state.store.WellFormed → parent ∈ state.store.directories →
      state.Extends (state.nodes parent ns) := by
  induction ns using ProjectNode.forest_induction with
  | nil => exact fun h _ => .refl h
  | cons n ns ihbelow ihns =>
    intro state parent h hparent
    have hnode : state.Extends (state.node parent n) := by
      by_cases hadmits : state.Admits (n.entry parent)
      · have hplace := Extends.place h hparent hadmits.1 hadmits
        rw [node_of_admits hadmits]
        cases hkind : n.info.kind with
        | file =>
          rw [ProjectNode.nodesBelow_eq_nil hkind]
          exact hplace
        | folder =>
          refine hplace.trans (ihbelow hplace.wellFormed ?_)
          rw [mem_directories_place]
          simp [ProjectNode.entry, hkind]
      · obtain ⟨warning, hwarn⟩ := node_of_not_admits hadmits
        rw [hwarn]
        exact .warn h warning
    exact hnode.trans (ihns hnode.wellFormed (hnode.directories hparent))

/-! ## Entries in a row -/

/-- Nothing stands in the way of any entry when its turn comes. -/
def AdmitsAll (state : Importing) : List TreeEntry → Prop
  | [] => True
  | entry :: entries => state.Admits entry ∧ (state.place entry).AdmitsAll entries

theorem admitsAll_append {entries more : List TreeEntry} :
    state.AdmitsAll (entries ++ more) ↔
      state.AdmitsAll entries ∧ (entries.foldl place state).AdmitsAll more := by
  induction entries generalizing state with
  | nil => simp [AdmitsAll]
  | cons entry entries ih => simp [AdmitsAll, ih, and_assoc]

/-- **If nothing stands in its way, a tree is imported entry by entry.** -/
theorem nodes_eq_foldl_place (ns : List ProjectNode) : ∀ {state : Importing} {parent : String},
    state.AdmitsAll (ProjectNode.entriesAll parent ns) →
      state.nodes parent ns = (ProjectNode.entriesAll parent ns).foldl place state := by
  induction ns using ProjectNode.forest_induction with
  | nil => exact fun _ => rfl
  | cons n ns ihbelow ihns =>
    intro state parent h
    rw [ProjectNode.entriesAll, ProjectNode.entries_eq, List.cons_append, AdmitsAll,
      admitsAll_append] at h
    obtain ⟨hnode, hbelow, hrest⟩ := h
    rw [nodes, node_of_admits hnode, ihbelow hbelow, ihns hrest, ProjectNode.entriesAll,
      ProjectNode.entries_eq, List.cons_append, List.foldl_cons, List.foldl_append]

@[simp] theorem warnings_foldl_place (state : Importing) (entries : List TreeEntry) :
    (entries.foldl place state).warnings = state.warnings := by
  induction entries generalizing state with
  | nil => rfl
  | cons entry entries ih => rw [List.foldl_cons, ih, warnings_place]

/-- Each file entry counts as one change. -/
theorem revision_foldl_place (state : Importing) (entries : List TreeEntry) :
    (entries.foldl place state).store.revision =
      state.store.revision + entries.countP (·.2.kind = .file) := by
  induction entries generalizing state with
  | nil => rfl
  | cons entry entries ih =>
    rw [List.foldl_cons, ih, List.countP_cons, place]
    split
    next hkind => simp [hkind, addDirectory]
    next hkind => simp [hkind, addFile, Nat.add_assoc, Nat.add_comm 1]

theorem mem_directories_foldl_place {entries : List TreeEntry} {d : String}
    (h : d ∈ state.store.directories ∨ ∃ entry ∈ entries, entry.2.kind = .folder ∧ entry.1 = d) :
    d ∈ (entries.foldl place state).store.directories := by
  induction entries generalizing state with
  | nil => simpa using h
  | cons first rest ih =>
    rw [List.foldl_cons]
    refine ih ?_
    rw [mem_directories_place]
    rcases h with h | ⟨entry, hmem, hkind, rfl⟩
    · exact .inl (.inl h)
    rcases List.mem_cons.1 hmem with rfl | hmem
    · simp [hkind]
    · exact .inr ⟨entry, hmem, hkind, rfl⟩

theorem get?_foldl_place_of_not_mem {entries : List TreeEntry} {p : String}
    (h : p ∉ entries.map Prod.fst) :
    (entries.foldl place state).store.files.get? p = state.store.files.get? p := by
  induction entries generalizing state with
  | nil => rfl
  | cons first rest ih =>
    rw [List.map_cons, List.mem_cons, not_or] at h
    rw [List.foldl_cons, ih h.2, get?_place]
    simp [h.1]

/-- If no path is spelled twice, each file entry ends up as a file. -/
theorem get?_foldl_place {entries : List TreeEntry} (hnodup : (entries.map Prod.fst).Nodup)
    {entry : TreeEntry} (hentry : entry ∈ entries) (hkind : entry.2.kind = .file) :
    (entries.foldl place state).store.files.get? entry.1 =
      some (fileOf entry.2 (state.store.files.get? entry.1)) := by
  induction entries generalizing state with
  | nil => cases hentry
  | cons first rest ih =>
    rw [List.map_cons, List.nodup_cons] at hnodup
    rw [List.foldl_cons]
    rcases List.mem_cons.1 hentry with rfl | hentry
    · rw [get?_foldl_place_of_not_mem hnodup.1, get?_place, if_pos ⟨hkind, rfl⟩]
    · have hne : entry.1 ≠ first.1 := fun he =>
        hnodup.1 (he ▸ List.mem_map_of_mem hentry)
      rw [ih hnodup.2 hentry, get?_place, if_neg (by simp [hne])]

/-! ## The paths of one store -/

/-- The entry is a directory or a file of the store. -/
def IsEntryOf (entry : TreeEntry) (store : Store) : Prop :=
  Path.IsSegment entry.2.name ∧
    match entry.2.kind with
    | .folder => entry.1 ∈ store.directories
    | .file => entry.1 ∈ store.files.keys

/-- What is built so far is part of a store. -/
structure Within (state : Importing) (store : Store) : Prop where
  directories : state.store.directories ⊆ store.directories
  keys : state.store.files.keys ⊆ store.files.keys

namespace Within

variable {store : Store} {entry : TreeEntry} {entries : List TreeEntry}

theorem admits (h : state.Within store) (hwell : store.WellFormed)
    (hentry : IsEntryOf entry store) :
    state.Admits entry := by
  obtain ⟨hname, hpath⟩ := hentry
  refine ⟨hname, ?_⟩
  split at hpath
  · exact fun hfile => hwell.not_both _ (h.keys hfile) hpath
  · exact fun hdir => hwell.not_both _ hpath (h.directories hdir)

theorem place (h : state.Within store) (hwell : store.WellFormed) (hentry : IsEntryOf entry store) :
    (state.place entry).Within store := by
  obtain ⟨-, hpath⟩ := hentry
  refine ⟨fun d hd => ?_, fun p hp => ?_⟩
  · rw [mem_directories_place] at hd
    rcases hd with hd | hd
    · exact h.directories hd
    · split at hd
      next hkind => simpa [hkind, hd] using hpath
      next hkind =>
        simp only [hkind] at hpath
        exact hwell.ancestor_mem _ (.inl hpath) d hd
  · rw [mem_keys_place] at hp
    rcases hp with hp | ⟨hkind, rfl⟩
    · exact h.keys hp
    · simpa [hkind] using hpath

/-- Entries of one well-formed store never stand in each other's way. -/
theorem admitsAll (h : state.Within store) (hwell : store.WellFormed)
    (hentries : ∀ entry ∈ entries, IsEntryOf entry store) : state.AdmitsAll entries := by
  induction entries generalizing state with
  | nil => trivial
  | cons first rest ih =>
    have hfirst := hentries first List.mem_cons_self
    exact ⟨h.admits hwell hfirst, ih (h.place hwell hfirst) fun entry hentry =>
      hentries entry (List.mem_cons_of_mem first hentry)⟩

theorem foldl_place (h : state.Within store) (hwell : store.WellFormed)
    (hentries : ∀ entry ∈ entries, IsEntryOf entry store) :
    (entries.foldl Importing.place state).Within store := by
  induction entries generalizing state with
  | nil => exact h
  | cons first rest ih =>
    exact ih (h.place hwell (hentries first List.mem_cons_self)) fun entry hentry =>
      hentries entry (List.mem_cons_of_mem first hentry)

end Within

end Importing

namespace Store

theorem wellFormed_nodes_clear (store : Store) (tree : List ProjectNode) :
    (Importing.nodes ⟨store.clear, []⟩ Path.root tree).store.WellFormed := by
  have hclear := WellFormed.clear store
  exact (@Importing.extends_nodes tree ⟨store.clear, []⟩ Path.root hclear hclear.root_mem).wellFormed

/-- **Whatever a project tree holds, the store built from it is well formed,** and so is one that a
tree is loaded into, whatever it was before. -/
theorem wellFormed_load (store : Store) (tree : List ProjectNode) :
    (store.load tree).store.WellFormed := by
  have h := wellFormed_nodes_clear store tree
  simp only [load]
  split
  next hcwd => exact { h with cwd_mem := isDirectory_iff.1 hcwd }
  · exact h

theorem wellFormed_ofTree (tree : List ProjectNode) : (ofTree tree).WellFormed :=
  wellFormed_load empty tree

theorem cwd_ofTree (tree : List ProjectNode) : (ofTree tree).cwd = Path.root := by
  have hroot : (Importing.nodes ⟨empty.clear, []⟩ Path.root tree).store.isDirectory empty.cwd =
      true := isDirectory_iff.2 (wellFormed_nodes_clear empty tree).root_mem
  rw [ofTree, load, if_pos hroot]
  rfl

/-- What a store is cleared to is part of every well-formed store. -/
theorem WellFormed.within_clear {store : Store} (h : WellFormed store) (into : Store) :
    Importing.Within ⟨into.clear, []⟩ store where
  directories _ hd := List.mem_singleton.1 hd ▸ h.root_mem
  keys _ hp := absurd hp List.not_mem_nil

/-- **If the entries of a tree are paths of one well-formed store, its import is a run over them,**
and nothing is passed over. -/
theorem WellFormed.load_eq_foldl_place {store : Store} (h : WellFormed store)
    {tree : List ProjectNode}
    (hentries : ∀ e ∈ ProjectNode.entriesAll Path.root tree, Importing.IsEntryOf e store)
    (into : Store) :
    (into.load tree).warnings = [] ∧
      (into.load tree).store.directories =
        ((ProjectNode.entriesAll Path.root tree).foldl Importing.place
          ⟨into.clear, []⟩).store.directories ∧
      (into.load tree).store.files =
        ((ProjectNode.entriesAll Path.root tree).foldl Importing.place
          ⟨into.clear, []⟩).store.files ∧
      (into.load tree).store.revision =
        ((ProjectNode.entriesAll Path.root tree).foldl Importing.place
          ⟨into.clear, []⟩).store.revision := by
  simp only [load, Importing.nodes_eq_foldl_place _ ((h.within_clear into).admitsAll h hentries)]
  split <;> simp

end Store
end EditorShell

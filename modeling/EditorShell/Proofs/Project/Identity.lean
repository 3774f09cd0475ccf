import EditorShell.Proofs.Project.RoundTrip
import EditorShell.Proofs.Store.Identity

/-!
# Identities of nodes

An exported node goes by one of two names: a file by the identity that it carries, and everything
else by its path (`id_entryAt`). The files of a store that is built from a tree carry the
identities of its file nodes (`carries_ofTree`), and as long as no two files carry the same one,
two nodes can share an identity in one way only: a file carries one that reads like the path of the
other node (`id_eq_iff`).
-/

namespace EditorShell

namespace ProjectNode

/-- The identities of the nodes of a tree, files and folders. -/
def ids (tree : List ProjectNode) : List String :=
  (entriesAll Path.root tree).map (·.2.id)

/-- The identities of the file nodes of a tree. -/
def fileIds (tree : List ProjectNode) : List String :=
  ((entriesAll Path.root tree).filter (·.2.kind = .file)).map (·.2.id)

theorem nodup_fileIds {tree : List ProjectNode} (h : (ids tree).Nodup) : (fileIds tree).Nodup :=
  h.sublist (List.filter_sublist.map _)

theorem idOr_eq (name : String) (id : Option String) :
    idOr name id = name ∨ id = some (idOr name id) := by
  cases id with
  | none => exact .inl rfl
  | some id => by_cases h : id = "" <;> simp [idOr, h]

end ProjectNode

/-- A file whose identity is one of `ids` and reads like the path of a node that goes by its
path. -/
structure TreeEntry.PosesAs (ids : List String) (entry other : TreeEntry) : Prop where
  kind_eq : entry.2.kind = .file
  id_mem : entry.2.id ∈ ids
  id_eq : entry.2.id = other.1
  other_id_eq : other.2.id = other.1

/-! ## Import -/

namespace Importing

theorem identity?_place (state : Importing) (entry : TreeEntry) (p : String) :
    (state.place entry).store.identity? p =
      if entry.2.kind = .file ∧ p = entry.1 then some entry.2.id else state.store.identity? p := by
  simp only [Store.identity?, get?_place]
  split <;> rfl

/-- What a file carries after an import it carried before, or a file node of its path had it. -/
theorem identity?_nodes (ns : List ProjectNode) : ∀ {state : Importing} {parent p i : String},
    (state.nodes parent ns).store.identity? p = some i →
      state.store.identity? p = some i ∨
        ∃ e ∈ ProjectNode.entriesAll parent ns, e.2.kind = .file ∧ e.1 = p ∧ e.2.id = i := by
  induction ns using ProjectNode.forest_induction with
  | nil => exact fun h => .inl h
  | cons n ns ihbelow ihns =>
    intro state parent p i h
    simp only [ProjectNode.entriesAll, ProjectNode.entries_eq, List.mem_append, List.mem_cons]
    rw [nodes] at h
    rcases ihns h with h | ⟨e, he, hfile⟩
    · by_cases hadmits : state.Admits (n.entry parent)
      · rw [node_of_admits hadmits] at h
        rcases ihbelow h with h | ⟨e, he, hfile⟩
        · rw [identity?_place] at h
          split at h
          next hfile =>
            exact .inr ⟨_, .inl (.inl rfl), hfile.1, hfile.2.symm, Option.some.inj h⟩
          · exact .inl h
        · exact .inr ⟨e, .inl (.inr he), hfile⟩
      · obtain ⟨warning, hwarn⟩ := node_of_not_admits hadmits
        rw [hwarn] at h
        exact .inl h
    · exact .inr ⟨e, .inr he, hfile⟩

end Importing

namespace Store

variable {store : Store} {ids : List String}

theorem files_ofTree (tree : List ProjectNode) :
    (ofTree tree).files = (Importing.nodes ⟨empty.clear, []⟩ Path.root tree).store.files := by
  rw [ofTree, load]
  split <;> rfl

/-- **A store built from a tree whose file nodes have different identities carries these.** -/
theorem carries_ofTree {tree : List ProjectNode} (h : (ProjectNode.fileIds tree).Nodup) :
    (ofTree tree).Carries (ProjectNode.fileIds tree) := by
  have horigin : ∀ p i, (ofTree tree).identity? p = some i →
      ∃ e ∈ (ProjectNode.entriesAll Path.root tree).filter (·.2.kind = .file),
        e.1 = p ∧ e.2.id = i := by
    intro p i hp
    rw [identity?, files_ofTree] at hp
    rcases Importing.identity?_nodes tree hp with hp | ⟨e, he, hkind, hfile⟩
    · cases hp
    · exact ⟨e, List.mem_filter.2 ⟨he, decide_eq_true hkind⟩, hfile⟩
  constructor
  · intro p i hp
    obtain ⟨e, he, -, rfl⟩ := horigin p i hp
    exact List.mem_map_of_mem he
  · intro p q i hp hq
    obtain ⟨e, he, rfl, hi⟩ := horigin p i hp
    obtain ⟨e', he', rfl, hi'⟩ := horigin q i hq
    rw [List.inj_on_of_nodup_map h he he' (hi.trans hi'.symm)]

/-! ## Export -/

/-- A file goes by the identity that it carries, and everything else by its path. -/
theorem id_entryAt (store : Store) (p : String) :
    (store.entryAt p).2.id = ProjectNode.idOr p (store.identity? p) := by
  rw [identity?]
  cases hfile : store.files.get? p with
  | none => rw [entryAt_of_folder (Table.get?_eq_none_iff.1 hfile)]; rfl
  | some file => rw [entryAt_of_file hfile]; rfl

theorem posesAs_of_identity? (h : store.Carries ids) {p q : String}
    (hp : store.identity? p = some (store.entryAt p).2.id)
    (hpq : (store.entryAt p).2.id = (store.entryAt q).2.id) (hq : (store.entryAt q).2.id = q) :
    TreeEntry.PosesAs ids (store.entryAt p) (store.entryAt q) where
  kind_eq := by
    obtain ⟨file, hfile, -⟩ := identity?_eq_some_iff.1 hp
    rw [entryAt_of_file hfile]
  id_mem := h.mem p _ hp
  id_eq := hpq.trans hq
  other_id_eq := hq

/-- **Two nodes share an identity exactly if one is a file that carries the path of the other,**
and this one goes by it. -/
theorem id_eq_iff (h : store.Carries ids) (hwell : WellFormed store) {entry other : TreeEntry}
    (hentry : entry ∈ ProjectNode.entriesAll Path.root store.tree)
    (hother : other ∈ ProjectNode.entriesAll Path.root store.tree) (hne : entry.1 ≠ other.1) :
    entry.2.id = other.2.id ↔ entry.PosesAs ids other ∨ other.PosesAs ids entry := by
  constructor
  · obtain ⟨p, -, rfl⟩ := hwell.mem_entriesAll_tree.1 hentry
    obtain ⟨q, -, rfl⟩ := hwell.mem_entriesAll_tree.1 hother
    intro heq
    have hp := ProjectNode.idOr_eq p (store.identity? p)
    have hq := ProjectNode.idOr_eq q (store.identity? q)
    rw [← id_entryAt] at hp hq
    rcases hp with hp | hp <;> rcases hq with hq | hq
    · exact absurd (hp.symm.trans (heq.trans hq)) hne
    · exact .inr (posesAs_of_identity? h hq heq.symm hp)
    · exact .inl (posesAs_of_identity? h hp heq hq)
    · exact absurd (h.unique p q _ hp (heq ▸ hq)) hne
  · rintro (hposes | hposes)
    · exact hposes.id_eq.trans hposes.other_id_eq.symm
    · exact (hposes.id_eq.trans hposes.other_id_eq.symm).symm

theorem not_nodup_ids_tree (hwell : WellFormed store) {p q : String} (hp : p ∈ store.treePaths)
    (hq : q ∈ store.treePaths) (hne : p ≠ q)
    (hid : ProjectNode.idOr p (store.identity? p) = ProjectNode.idOr q (store.identity? q)) :
    ¬(ProjectNode.ids store.tree).Nodup := by
  intro hnodup
  rw [← id_entryAt, ← id_entryAt] at hid
  exact hne (congrArg Prod.fst (List.inj_on_of_nodup_map hnodup
    (hwell.mem_entriesAll_tree.2 ⟨p, hp, rfl⟩) (hwell.mem_entriesAll_tree.2 ⟨q, hq, rfl⟩) hid))

/-- No two nodes share an identity if none that a file can carry reads like an absolute path. -/
theorem nodup_ids_tree (h : store.Carries ids) (hwell : WellFormed store)
    (hrelative : ∀ i ∈ ids, Text.startsWith i Path.root = false) :
    (ProjectNode.ids store.tree).Nodup := by
  have hpaths := hwell.nodup_entriesAll_tree
  refine (List.nodup_map_iff_inj_on hpaths.of_map).2 fun e he e' he' heq => ?_
  by_contra hne
  have habsolute : ∀ e ∈ ProjectNode.entriesAll Path.root store.tree, e.1 ∉ ids := by
    intro e he hmem
    obtain ⟨p, hp, rfl⟩ := hwell.mem_entriesAll_tree.1 he
    have hroot := Path.isWithin_root (hwell.isCanonical_of_mem_treePaths hp)
    rw [Path.isWithin_root_iff] at hroot
    exact absurd hroot (Bool.not_eq_true _ ▸ hrelative p hmem)
  have hfst : e.1 ≠ e'.1 := fun hfst => hne (List.inj_on_of_nodup_map hpaths he he' hfst)
  rcases (id_eq_iff h hwell he he' hfst).1 heq with hposes | hposes
  · exact habsolute e' he' (hposes.id_eq ▸ hposes.id_mem)
  · exact habsolute e he (hposes.id_eq ▸ hposes.id_mem)

end Store
end EditorShell

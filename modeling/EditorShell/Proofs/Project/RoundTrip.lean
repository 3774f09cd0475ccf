import EditorShell.Proofs.Project.Export
import EditorShell.Proofs.Project.Import

/-!
# Import undoes export

The tree of a well-formed store spells the paths of the store, each once (`perm_entriesAll_tree`),
so nothing stands in the way when it is imported (`load_eq_foldl_place`), and what is built has the
directories and the files of the store. Only identities differ: a file without one comes back with
its path for an identity, which is what the tree showed in the first place.
-/

namespace EditorShell
namespace Store

variable {store : Store}

/-- The file as it comes back when the tree that shows it is imported. -/
def reimported (path : String) (file : File) : File :=
  { file with nodeId := some (ProjectNode.idOr path file.nodeId) }

theorem idOr_idOr (name : String) (id : Option String) :
    ProjectNode.idOr name (some (ProjectNode.idOr name id)) = ProjectNode.idOr name id := by
  cases id with
  | none => by_cases h : name = "" <;> simp [ProjectNode.idOr, h]
  | some id =>
    by_cases h : id = "" <;> simp [ProjectNode.idOr, h]

theorem entryAt_of_file {p : String} {file : File} (h : store.files.get? p = some file) :
    store.entryAt p = (p, ⟨ProjectNode.idOr p file.nodeId, Path.name p, .file, some file.content,
      file.mimeType⟩) := by
  simp [entryAt, nodeAt, h, ProjectNode.info]

theorem entryAt_of_folder {p : String} (h : p ∉ store.files.keys) :
    store.entryAt p = (p, ⟨p, Path.name p, .folder, none, none⟩) := by
  simp [entryAt, nodeAt, Table.get?_eq_none_iff.2 h, ProjectNode.info]

theorem nodeAt_reimported {other : Store}
    (hfiles : ∀ p, other.files.get? p = (store.files.get? p).map (reimported p)) (p : String)
    (children : List ProjectNode) : other.nodeAt p children = store.nodeAt p children := by
  rw [nodeAt, nodeAt, hfiles]
  cases store.files.get? p with
  | none => rfl
  | some file => simp [reimported, idOr_idOr]

/-- A store with the same directories shows the same tree if its files are those that come back. -/
theorem tree_eq_of_reimported {other : Store} (hother : WellFormed other) (h : WellFormed store)
    (hdirs : ∀ d, d ∈ other.directories ↔ d ∈ store.directories)
    (hfiles : ∀ p, other.files.get? p = (store.files.get? p).map (reimported p)) :
    other.tree = store.tree := by
  refine tree_congr hother.nodup h.nodup hdirs (fun p => ?_) (nodeAt_reimported hfiles)
  rw [← Table.get?_isSome_iff, ← Table.get?_isSome_iff, hfiles, Option.isSome_map]

namespace WellFormed

variable (h : WellFormed store)

include h

/-- What the tree says of a path is an entry of the store. -/
theorem isEntryOf_entryAt {p : String} (hp : p ∈ store.treePaths) :
    Importing.IsEntryOf (store.entryAt p) store := by
  refine ⟨?_, ?_⟩
  · rw [name_entryAt]
    exact Path.isSegment_name (h.isCanonical_of_mem_treePaths hp) (h.ne_root_of_mem_treePaths hp)
  · rcases mem_treePaths.1 hp with hp | hp
    · obtain ⟨-, hdir, hfile⟩ := isFolder_iff.1 hp
      rwa [entryAt_of_folder hfile]
    · obtain ⟨file, hfile⟩ := Option.isSome_iff_exists.1 (Table.get?_isSome_iff.2 hp)
      rwa [entryAt_of_file hfile]

theorem isEntryOf_of_mem {entry : TreeEntry}
    (hentry : entry ∈ ProjectNode.entriesAll Path.root store.tree) :
    Importing.IsEntryOf entry store := by
  obtain ⟨p, hp, rfl⟩ := h.mem_entriesAll_tree.1 hentry
  exact h.isEntryOf_entryAt hp

theorem nodup_entriesAll_tree :
    ((ProjectNode.entriesAll Path.root store.tree).map Prod.fst).Nodup := by
  rw [(h.perm_entriesAll_tree.map Prod.fst).nodup_iff, List.map_map]
  have hid : Prod.fst ∘ store.entryAt = id := rfl
  rw [hid, List.map_id]
  exact nodup_treePaths h.nodup

/-- **A tree that is imported gives the directories and the files that it shows,** and nothing is in
its way. -/
theorem load_tree (into : Store) :
    (into.load store.tree).warnings = [] ∧
      (∀ d, d ∈ (into.load store.tree).store.directories ↔ d ∈ store.directories) ∧
      ∀ p, (into.load store.tree).store.files.get? p =
        (store.files.get? p).map (reimported p) := by
  have hwithin := (h.within_clear into).foldl_place h fun _ => h.isEntryOf_of_mem
  have hmem (p : String) (hp : p ∈ store.treePaths) :
      store.entryAt p ∈ ProjectNode.entriesAll Path.root store.tree :=
    h.mem_entriesAll_tree.2 ⟨p, hp, rfl⟩
  obtain ⟨hwarnings, hdirs, hfiles, -⟩ :=
    h.load_eq_foldl_place (fun _ => h.isEntryOf_of_mem) into
  refine ⟨hwarnings, fun d => ?_, fun p => ?_⟩
  · rw [hdirs]
    refine ⟨fun hd => hwithin.directories hd, fun hd => ?_⟩
    refine Importing.mem_directories_foldl_place ?_
    by_cases hroot : d = Path.root
    · exact .inl (List.mem_singleton.2 hroot)
    · have hfile : d ∉ store.files.keys := fun hfile => h.not_both d hfile hd
      have hentry := hmem d (mem_treePaths.2 (.inl (isFolder_iff.2 ⟨hroot, hd, hfile⟩)))
      exact .inr ⟨_, hentry, by rw [entryAt_of_folder hfile], rfl⟩
  · rw [hfiles]
    cases hfile : store.files.get? p with
    | none =>
      have hnot := Table.get?_eq_none_iff.1 hfile
      exact Table.get?_eq_none_iff.2 fun hp => hnot (hwithin.keys hp)
    | some file =>
      have hp := Table.mem_keys_of_get? hfile
      have hget := @Importing.get?_foldl_place ⟨into.clear, []⟩ _ h.nodup_entriesAll_tree _
        (hmem p (mem_treePaths.2 (.inr hp))) (by rw [entryAt_of_file hfile])
      rw [entryAt_of_file hfile] at hget
      rw [hget]
      have hnone : into.clear.files.get? p = none := rfl
      simp [Importing.fileOf, hnone, reimported]

/-- **The tree of what is built from a tree is that tree,** if a store shows it. -/
theorem tree_load_tree (into : Store) : (into.load store.tree).store.tree = store.tree := by
  obtain ⟨-, hdirs, hfiles⟩ := h.load_tree into
  exact tree_eq_of_reimported (wellFormed_load into store.tree) h hdirs hfiles

end WellFormed

/-- **Import undoes export.** The tree of a well-formed store is imported without a warning, and
what is built has the same directories and the same files, with their texts, types and identities;
a file that had no identity, or an empty one, now has its path for one. So the export of what is
built is the same tree. Whatever tree one starts with, from the first export on the tree stays the
same. -/
theorem import_undoes_export :
    (∀ store : Store, store.WellFormed →
      (empty.load store.tree).warnings = [] ∧
      (∀ d, d ∈ (ofTree store.tree).directories ↔ d ∈ store.directories) ∧
      (∀ p, p ∈ (ofTree store.tree).files.keys ↔ p ∈ store.files.keys) ∧
      (∀ p file, store.files.get? p = some file →
        (ofTree store.tree).files.get? p =
          some ⟨file.content, file.mimeType, some (ProjectNode.idOr p file.nodeId)⟩) ∧
      (ofTree store.tree).tree = store.tree) ∧
    ∀ tree : List ProjectNode, (ofTree (ofTree tree).tree).tree = (ofTree tree).tree := by
  refine ⟨fun store h => ?_, fun tree => (wellFormed_ofTree tree).tree_load_tree empty⟩
  obtain ⟨hwarnings, hdirs, hfiles⟩ := h.load_tree empty
  refine ⟨hwarnings, hdirs, fun p => ?_, fun p file hfile => ?_, h.tree_load_tree empty⟩
  · rw [ofTree, ← Table.get?_isSome_iff, ← Table.get?_isSome_iff, hfiles, Option.isSome_map]
  · rw [ofTree, hfiles, hfile]
    rfl

/-- A folder, a file in it, and a file that comes between the two in path order. -/
def interleaved : Store where
  directories := ["/", "/a"]
  files := Table.ofList [("/a/c", ⟨"x", some "text/plain", some ""⟩), ("/a.b", ⟨"", none, none⟩)]
  cwd := "/a"
  revision := 0

theorem wellFormed_interleaved : interleaved.WellFormed := by decide

theorem import_undoes_export_interleaved :
    interleaved.WellFormed ∧
      (ofTree interleaved.tree).files.get? "/a/c" =
        some ⟨"x", some "text/plain", some "/a/c"⟩ ∧
      (ofTree interleaved.tree).tree = interleaved.tree := by
  obtain ⟨-, -, -, hfiles, htree⟩ := import_undoes_export.1 interleaved wellFormed_interleaved
  exact ⟨wellFormed_interleaved, hfiles "/a/c" ⟨"x", some "text/plain", some ""⟩ (by decide), htree⟩

end Store
end EditorShell

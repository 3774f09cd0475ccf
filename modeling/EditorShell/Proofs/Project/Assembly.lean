import EditorShell.Project.Assembly
import EditorShell.Proofs.Project.Export

/-!
# The pass never breaks off

When the single pass comes to a path, all paths before it are built and none of those after it
(`Stands`). Above the path there are only paths before it, so the folder that is found on the way up
is its owner (`closestFolder?_eq`), and that one has a list of children (`exists_place?`). So the
pass reaches the last path, whatever the store is like (`exists_assemble?`), and what it leaves
reads as the tree (`Stands.reads`).
-/

namespace EditorShell
namespace Store

variable {store : Store} {assembly : Assembly} {done rest : List String} {p q o : String}

/-! ## Drafts -/

theorem info_draftAt (store : Store) (p : String) :
    (store.draftAt p).info = (store.entryAt p).2 := by
  simp only [draftAt, entryAt, nodeAt]
  cases store.files.get? p <;> rfl

theorem kind_draftAt_eq_folder (store : Store) (p : String) :
    (store.draftAt p).info.kind = .folder ↔ p ∉ store.files.keys := by
  rw [← Table.get?_eq_none_iff, draftAt]
  cases store.files.get? p <;> simp

theorem kind_draftAt_eq_file (store : Store) (p : String) :
    (store.draftAt p).info.kind = .file ↔ p ∈ store.files.keys := by
  rw [← not_iff_not, ← kind_draftAt_eq_folder]
  cases (store.draftAt p).info.kind <;> simp

theorem children_draftAt (h : p ∉ store.files.keys) : (store.draftAt p).children = some [] := by
  rw [draftAt, Table.get?_eq_none_iff.2 h]

theorem isFolder_iff_of_mem_treePaths (hp : p ∈ store.treePaths) :
    store.isFolder p = true ↔ p ∉ store.files.keys := by
  constructor
  · exact fun h => (isFolder_iff.1 h).2.2
  · exact fun h => (mem_treePaths.1 hp).resolve_right h

/-- The node of a path when the paths of a list are built. -/
def draftAfter (store : Store) (done : List String) (path : String) : Draft :=
  { store.draftAt path with
    children := (store.draftAt path).children.map fun _ =>
      done.filter (store.owner? · = some path) }

theorem draftAfter_eq_draftAt (h : done.filter (store.owner? · = some p) = []) :
    store.draftAfter done p = store.draftAt p := by
  rw [draftAfter, h, draftAt]
  cases store.files.get? p <;> rfl

/-- A path changes no node but the folder on which it hangs. -/
theorem draftAfter_concat_of_ne (h : store.owner? p ≠ some q) :
    store.draftAfter (done ++ [p]) q = store.draftAfter done q := by
  simp [draftAfter, h]

theorem draftAfter_concat_owner (h : store.owner? p = some o) :
    store.draftAfter (done ++ [p]) o =
      { store.draftAfter done o with
        children := some (done.filter (store.owner? · = some o) ++ [p]) } := by
  simp [draftAfter, h, children_draftAt (isFolder_iff.1 (owner?_eq_some h).2).2.2]

/-! ## What stands when the pass comes to a path -/

/-- Exactly the paths of the list are built, with what hangs on them so far. -/
structure Stands (store : Store) (done : List String) (assembly : Assembly) : Prop where
  get? : ∀ q, assembly.built.get? q = if q ∈ done then some (store.draftAfter done q) else none
  roots : assembly.roots = done.filter (store.owner? · = none)

theorem stands_empty (store : Store) : store.Stands [] .empty where
  get? _ := rfl
  roots := rfl

/-- On the way up the owner of a path is found, if the folders above the path stand and nothing
else above it is a folder. -/
theorem closestFolder?_eq
    (hbuilt : ∀ a ∈ Path.ancestors p, store.isFolder a = true →
      assembly.built.get? a = some (store.draftAfter done a))
    (hfolder : ∀ a ∈ Path.ancestors p, a ≠ Path.root → ∀ draft,
      assembly.built.get? a = some draft → draft.info.kind = .folder →
        store.isFolder a = true) :
    assembly.closestFolder? p = (store.owner? p).map fun o => (o, store.draftAfter done o) := by
  induction p using Path.ancestors.induct with
  | case1 =>
    have hroot : Path.parent Path.root = Path.root := by simp [Path.parent]
    rw [Assembly.closestFolder?, if_pos hroot, owner?_root, Option.map_none]
  | case2 p hp ih =>
    have hmem : Path.parent p ∈ Path.ancestors p := by
      rw [Path.ancestors, if_neg hp]
      simp
    have habove : ∀ a ∈ Path.ancestors (Path.parent p), a ∈ Path.ancestors p := by
      intro a ha
      rw [Path.ancestors, if_neg hp]
      exact List.mem_append_left _ ha
    have ih := ih (fun a ha => hbuilt a (habove a ha)) fun a ha => hfolder a (habove a ha)
    rw [Assembly.closestFolder?, owner?_step hp]
    by_cases htop : Path.parent p = Path.root
    · have hnot : ¬store.isFolder Path.root = true := fun h => (isFolder_iff.1 h).1 rfl
      rw [if_pos htop, htop, if_neg hnot, owner?_root, Option.map_none]
    rw [if_neg htop]
    cases howner : store.isFolder (Path.parent p) with
    | true =>
      have hkind : (store.draftAfter done (Path.parent p)).info.kind = .folder :=
        (kind_draftAt_eq_folder store _).2 (isFolder_iff.1 howner).2.2
      rw [hbuilt _ hmem howner]
      simp only [if_pos hkind, if_true, Option.map_some]
    | false =>
      cases hget : assembly.built.get? (Path.parent p) with
      | none => simpa using ih
      | some draft =>
        have hkind : draft.info.kind ≠ .folder := fun hkind => by
          simp [hfolder _ hmem htop draft hget hkind] at howner
        simpa [hkind] using ih

section Pass

variable (hnodup : store.directories.Nodup) (hcanonical : ∀ p ∈ store.treePaths, Path.IsCanonical p)

include hnodup in
theorem mem_of_lt (heq : store.treePaths = done ++ p :: rest) (hq : q ∈ store.treePaths)
    (hlt : q < p) : q ∈ done := by
  have hpairwise := List.pairwise_append.1 (heq ▸ pairwise_treePaths hnodup)
  rw [heq, List.mem_append, List.mem_cons] at hq
  rcases hq with hq | rfl | hq
  · exact hq
  · exact absurd hlt (lt_irrefl q)
  · exact absurd (List.rel_of_pairwise_cons hpairwise.2.1 hq) (lt_asymm hlt)

include hnodup hcanonical

/-- When a path is built, the folder that is found for it is its owner. -/
theorem closestFolder?_of_stands (heq : store.treePaths = done ++ p :: rest)
    (h : store.Stands done assembly) :
    Assembly.closestFolder? ⟨assembly.built.set p (store.draftAt p), assembly.roots⟩ p =
      (store.owner? p).map fun o => (o, store.draftAfter done o) := by
  have hp : Path.IsCanonical p := hcanonical p (by simp [heq])
  have hlt : ∀ a ∈ Path.ancestors p, a < p := fun a ha =>
    have hcanonical := Path.isCanonical_of_mem_ancestors hp ha
    Path.lt_of_isBelow hp hcanonical ((Path.mem_ancestors_iff hp hcanonical).1 ha)
  refine closestFolder?_eq (fun a ha hfolder => ?_) fun a ha _ draft hget hkind => ?_
  · have hdone := mem_of_lt hnodup heq (mem_treePaths.2 (.inl hfolder)) (hlt a ha)
    rw [Table.get?_set, if_neg (hlt a ha).ne, h.get?, if_pos hdone]
  · rw [Table.get?_set, if_neg (hlt a ha).ne, h.get?] at hget
    split_ifs at hget with hdone
    cases hget
    exact (isFolder_iff_of_mem_treePaths (by simp [heq, hdone])).2 ((kind_draftAt_eq_folder store a).1 hkind)

/-- **A path can be placed when exactly the paths before it stand.** -/
theorem exists_place? (heq : store.treePaths = done ++ p :: rest) (h : store.Stands done assembly) :
    ∃ after, store.place? assembly p = some after ∧ store.Stands (done ++ [p]) after := by
  have hclosest := closestFolder?_of_stands hnodup hcanonical heq h
  have hself : store.draftAfter (done ++ [p]) p = store.draftAt p :=
    draftAfter_eq_draftAt (filter_owner?_before hnodup hcanonical heq)
  cases howner : store.owner? p with
  | none =>
    rw [howner, Option.map_none] at hclosest
    refine ⟨⟨assembly.built.set p (store.draftAt p), assembly.roots ++ [p]⟩, ?_, fun q => ?_, ?_⟩
    · simp only [place?, hclosest]
    · rw [Table.get?_set, h.get?]
      by_cases hq : q = p
      · subst hq
        simp [hself]
      · rw [draftAfter_concat_of_ne (by simp [howner])]
        simp [hq]
    · simp [h.roots, howner]
  | some o =>
    rw [howner, Option.map_some] at hclosest
    have hlt : o < p := owner?_lt (hcanonical p (by simp [heq])) howner
    have hdone : o ∈ done := mem_of_lt hnodup heq (owner?_mem howner) hlt
    have hfile : o ∉ store.files.keys := (isFolder_iff.1 (owner?_eq_some howner).2).2.2
    refine ⟨⟨(assembly.built.set p (store.draftAt p)).set o
      (store.draftAfter (done ++ [p]) o), assembly.roots⟩, ?_, fun q => ?_, ?_⟩
    · simp only [place?, hclosest, draftAfter_concat_owner howner]
      simp only [draftAfter, children_draftAt hfile, Option.map_some]
    · rw [Table.get?_set, Table.get?_set, h.get?]
      by_cases hqo : q = o
      · subst hqo
        simp [hdone]
      · by_cases hq : q = p
        · subst hq
          simp [hself, hqo]
        · have hsame : store.draftAfter (done ++ [p]) q = store.draftAfter done q :=
            draftAfter_concat_of_ne (by simpa [howner] using Ne.symm hqo)
          simp [hq, hqo, hsame]
    · simp [h.roots, howner]

/-- **The pass reaches the last path.** -/
theorem exists_foldlM_place? (heq : store.treePaths = done ++ rest)
    (h : store.Stands done assembly) :
    ∃ after, rest.foldlM store.place? assembly = some after ∧
      store.Stands store.treePaths after := by
  induction rest generalizing done assembly with
  | nil => exact ⟨assembly, rfl, by rwa [heq, List.append_nil]⟩
  | cons p rest ih =>
    obtain ⟨next, hplace, hnext⟩ := exists_place? hnodup hcanonical heq h
    obtain ⟨after, hrest, hafter⟩ := ih (List.append_cons done p rest ▸ heq) hnext
    exact ⟨after, by rw [List.foldlM_cons, hplace]; exact hrest, hafter⟩

/-- **The pass never breaks off,** whatever the store is like. -/
theorem exists_assemble? :
    ∃ assembly, store.assemble? = some assembly ∧ store.Stands store.treePaths assembly :=
  exists_foldlM_place? hnodup hcanonical (List.nil_append _).symm (stands_empty store)

end Pass

end Store

/-! ## Reading what is built -/

/-- The node of a draft, given the nodes of all paths. -/
def Draft.node (draft : Draft) (nodeOf : String → ProjectNode) : ProjectNode :=
  match draft.children with
  | none => .leaf draft.info
  | some children => .branch draft.info (children.map nodeOf)

/-- What is built is this forest: by `nodeOf` every path refers to the node that is built of it. -/
structure Assembly.Reads (assembly : Assembly) (nodeOf : String → ProjectNode)
    (forest : List ProjectNode) : Prop where
  node : ∀ p draft, assembly.built.get? p = some draft → nodeOf p = draft.node nodeOf
  roots : forest = assembly.roots.map nodeOf

namespace Store

/-- **What stands at the end of the pass reads as the tree.** -/
theorem Stands.reads {store : Store} {assembly : Assembly} (hnodup : store.directories.Nodup)
    (hcanonical : ∀ p ∈ store.treePaths, Path.IsCanonical p)
    (h : store.Stands store.treePaths assembly) : assembly.Reads store.subtree store.tree where
  node p draft hget := by
    rw [h.get?] at hget
    split_ifs at hget
    cases hget
    rw [subtree_eq hcanonical, nodeAt, draftAfter, draftAt, Draft.node, hanging]
    cases store.files.get? p <;> rfl
  roots := by rw [tree_eq_hanging hnodup hcanonical, hanging, h.roots]

end Store
end EditorShell

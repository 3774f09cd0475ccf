import EditorShell.Proofs.Project.Identity
import EditorShell.Proofs.Shell.Run

/-!
# Identities in a session

A session starts from a project tree whose nodes have different identities. What commands do to
the store never makes two files carry the same one (`Identified.execute`), so in the tree that the
session shows after any lines two nodes share an identity only if a file that was moved, or that
came in with a path for an identity, carries the path of the other (`id_eq_iff_posesAs`). This does
happen, even if the session starts from a tree that a session has shown (`shared_id_after_move`).
-/

namespace EditorShell

theorem Session.carries_start {settings : Settings} {tree : List ProjectNode} {session : Session}
    (hids : (ProjectNode.ids tree).Nodup) (h : Session.start settings tree = .ok session) :
    session.store.Carries (ProjectNode.fileIds tree) := by
  have htree := Store.carries_ofTree (ProjectNode.nodup_fileIds hids)
  simp only [Session.start, ofSettings] at h
  split at h
  · cases h
  · cases h
    refine htree.of_le fun p i hp => ?_
    simp only [tellCwd] at hp
    split at hp <;> exact hp

namespace Shell

variable {shell : Shell} {ids : List String}

/-- The commands keep to operations on canonical paths, and the files of the session carry
different identities, all of `ids`. -/
structure Identified (shell : Shell) (ids : List String) : Prop where
  sound : shell.Sound
  carries : ∀ session, shell.session = some session → session.store.Carries ids

namespace Identified

/-- A line moves identities about at most. -/
theorem execute (h : shell.Identified ids) (line : String) :
    (shell.handle (.execute line)).Identified ids := by
  refine ⟨h.sound.handle trivial, fun session hsession => ?_⟩
  obtain ⟨old, hold, rfl | hstore⟩ := store_handle_execute hsession
  · exact h.carries session hold
  · rw [hstore]
    exact (h.carries old hold).of_edits (h.sound.store old hold)
      (edits_attend h.sound.catalog old _)

theorem executeAll (h : shell.Identified ids) (lines : List String) :
    (shell.handleAll (lines.map .execute)).Identified ids := by
  induction lines generalizing shell with
  | nil => exact h
  | cons line lines ih => exact ih (h.execute line)

theorem start (settings : Settings) (allowed : List String) (today : Date)
    {tree : List ProjectNode} (hids : (ProjectNode.ids tree).Nodup) :
    ((create settings allowed today).handle (.start tree)).Identified
      (ProjectNode.fileIds tree) := by
  refine ⟨(Sound.create settings allowed today).handle trivial, fun session hsession => ?_⟩
  simp only [Shell.handle, Shell.start, create] at hsession
  cases hstart : Session.start settings tree with
  | error error => simp [hstart, Except.map] at hsession
  | ok started =>
    simp only [hstart, Except.map, Option.some.injEq] at hsession
    exact hsession ▸ Session.carries_start hids hstart

theorem run (settings : Settings) (allowed : List String) (today : Date)
    {tree : List ProjectNode} (hids : (ProjectNode.ids tree).Nodup) (lines : List String) :
    ((create settings allowed today).handleAll (.start tree :: lines.map .execute)).Identified
      (ProjectNode.fileIds tree) :=
  (start settings allowed today hids).executeAll lines

end Identified

/-- **Two nodes of a tree that a session shows share an identity exactly if one poses as the
other:** it is a file that carries the identity of a file node of the tree from which the session
started, this reads like the path of the other node, and the other node goes by its path. So all
identities are different as long as no file node had one that reads like an absolute path. -/
theorem id_eq_iff_posesAs (settings : Settings) (allowed : List String) (today : Date)
    (tree : List ProjectNode) (lines : List String) (session : Session)
    (hids : (ProjectNode.ids tree).Nodup)
    (hrunning : ((create settings allowed today).handleAll
      (.start tree :: lines.map .execute)).session = some session) :
    (∀ entry ∈ ProjectNode.entriesAll Path.root session.store.tree,
      ∀ other ∈ ProjectNode.entriesAll Path.root session.store.tree, entry.1 ≠ other.1 →
        (entry.2.id = other.2.id ↔ entry.PosesAs (ProjectNode.fileIds tree) other ∨
          other.PosesAs (ProjectNode.fileIds tree) entry)) ∧
      ((∀ i ∈ ProjectNode.fileIds tree, Text.startsWith i Path.root = false) →
        (ProjectNode.ids session.store.tree).Nodup) := by
  have h := Identified.run settings allowed today hids lines
  have hwell := h.sound.store session hrunning
  have hcarries := h.carries session hrunning
  exact ⟨fun entry hentry other hother => Store.id_eq_iff hcarries hwell hentry hother,
    Store.nodup_ids_tree hcarries hwell⟩

/-- Two files and a folder, with identities that are no paths. -/
def labelled : List ProjectNode :=
  [.leaf ⟨"n1", "a", .file, some "x", none⟩, .leaf ⟨"", "b", .file, none, none⟩,
    .branch ⟨"n2", "d", .folder, none, none⟩ []]

theorem id_eq_iff_posesAs_labelled :
    (ProjectNode.ids labelled).Nodup ∧
      ∃ session, ((create .default [] ⟨2024, 1, 2⟩).handleAll
          (.start labelled :: ["mv a d/c", "touch a", "cp -r d e"].map .execute)).session =
            some session ∧
        (ProjectNode.ids session.store.tree).Nodup := by
  have hids : (ProjectNode.ids labelled).Nodup := by decide +kernel
  have hrelative : ∀ i ∈ ProjectNode.fileIds labelled, Text.startsWith i Path.root = false := by
    decide +kernel
  have hsome : (((create .default [] ⟨2024, 1, 2⟩).handleAll
      (.start labelled :: ["mv a d/c", "touch a", "cp -r d e"].map .execute)).session).isSome =
        true := by decide +kernel
  obtain ⟨session, hsession⟩ := Option.isSome_iff_exists.1 hsome
  exact ⟨hids, session, hsession,
    (id_eq_iff_posesAs .default [] ⟨2024, 1, 2⟩ labelled _ session hids hsession).2 hrelative⟩

/-- A file that goes by its path, as a session shows it. -/
def shown : List ProjectNode := [.leaf ⟨"/a", "a", .file, some "", none⟩]

/-- What is left when that file is moved and another one takes its place. -/
def displaced : Store where
  directories := ["/"]
  files := Table.ofList [("/b", ⟨"", none, some "/a"⟩), ("/a", ⟨"", none, none⟩)]
  cwd := "/"
  revision := 5

/-- The identities of a tree need not stay different, even if a session has shown the tree. -/
theorem shared_id_after_move :
    (ProjectNode.ids shown).Nodup ∧ (Store.ofTree shown).tree = shown ∧
      ∃ session, ((create .default [] ⟨2024, 1, 2⟩).handleAll
          (.start shown :: ["mv a b", "touch a"].map .execute)).session = some session ∧
        ¬(ProjectNode.ids session.store.tree).Nodup := by
  have hstore : ((create .default [] ⟨2024, 1, 2⟩).handleAll
      (.start shown :: ["mv a b", "touch a"].map .execute)).session.map (·.store) =
        some displaced := by decide +kernel
  obtain ⟨session, hsession, hdisplaced⟩ := Option.map_eq_some_iff.1 hstore
  have hids : (ProjectNode.ids shown).Nodup := by decide
  have hrun := Identified.run .default [] ⟨2024, 1, 2⟩ hids ["mv a b", "touch a"]
  have hwell := hrun.sound.store session hsession
  rw [hdisplaced] at hwell
  have hkeys : "/a" ∈ displaced.files.keys ∧ "/b" ∈ displaced.files.keys := by decide
  refine ⟨hids, by decide +kernel, session, hsession, ?_⟩
  rw [hdisplaced]
  exact Store.not_nodup_ids_tree hwell (Store.mem_treePaths.2 (.inr hkeys.1))
    (Store.mem_treePaths.2 (.inr hkeys.2)) (by decide) (by decide)

end Shell
end EditorShell

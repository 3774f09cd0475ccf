import EditorShell.Project.Export

/-!
# A project tree in one pass

The tree of a store can also be built in a single pass over its paths from the first to the last,
in which every node is added to the children of a folder that stands already. The folder is looked
for upwards from the parent of the path, among the nodes that are built. Nodes are referred to by
their paths, as those at the top and the children of a folder go on to change while other paths are
visited. The pass breaks off if the folder that was found cannot have children.
-/

namespace EditorShell

/-- A node that is being built. -/
structure Draft where
  info : NodeInfo
  /-- The paths of its children; a file cannot have any. -/
  children : Option (List String)
deriving DecidableEq, Repr

/-- A tree that is being built. -/
structure Assembly where
  /-- The nodes by their paths. -/
  built : Table Draft
  /-- The paths of the nodes at the top. -/
  roots : List String
deriving DecidableEq, Repr

namespace Assembly

/-- Nothing is built yet. -/
def empty : Assembly := ⟨.empty, []⟩

/-- The closest folder above `path` among the nodes that are built, found on the way up. -/
def closestFolder? (assembly : Assembly) (path : String) : Option (String × Draft) :=
  if Path.parent path = Path.root then none
  else match assembly.built.get? (Path.parent path) with
    | some draft =>
      if draft.info.kind = .folder then some (Path.parent path, draft)
      else assembly.closestFolder? (Path.parent path)
    | none => assembly.closestFolder? (Path.parent path)
termination_by Path.height path
decreasing_by all_goals exact Path.height_parent_lt fun h => by simp_all [Path.parent]

end Assembly

namespace Store

/-- The node of a path before anything hangs on it. -/
def draftAt (store : Store) (path : String) : Draft :=
  match store.files.get? path with
  | some file => ⟨⟨ProjectNode.idOr path file.nodeId, Path.name path, .file, some file.content,
      file.mimeType⟩, none⟩
  | none => ⟨⟨path, Path.name path, .folder, none, none⟩, some []⟩

/-- Builds the node of a path and adds it to the children of the closest folder, or to the top if
there is none. -/
def place? (store : Store) (assembly : Assembly) (path : String) : Option Assembly :=
  let built := assembly.built.set path (store.draftAt path)
  match ({ assembly with built := built } : Assembly).closestFolder? path with
  | none => some ⟨built, assembly.roots ++ [path]⟩
  | some (owner, draft) =>
    draft.children.map fun children =>
      ⟨built.set owner { draft with children := some (children ++ [path]) }, assembly.roots⟩

/-- The tree of a store, built in one pass. -/
def assemble? (store : Store) : Option Assembly :=
  store.treePaths.foldlM store.place? .empty

end Store
end EditorShell

import EditorShell.Project.Node
import EditorShell.Store.Basic

/-!
# From a store to a project tree

Every directory but the root and every file becomes a node. A node hangs on the closest directory
above it that is a folder of the tree, or stands at the top if there is none, and siblings are in
path order. A path that is both a directory and a file counts as a file.

Paths are visited from the last to the first: a path comes after all paths above it, so when a
folder is built, all that hangs on it is waiting already.
-/

namespace EditorShell
namespace Store

/-- The directory at `path` becomes a folder of the tree. -/
def isFolder (store : Store) (path : String) : Bool :=
  path != Path.root && store.isDirectory path && !store.isFile path

/-- All paths that become nodes, in order. -/
def treePaths (store : Store) : List String :=
  Text.sort (store.directories.filter store.isFolder ++ store.files.keys)

/-- The folder on which `path` hangs. -/
def owner? (store : Store) (path : String) : Option String :=
  ((Path.ancestors path).filter store.isFolder).getLast?

/-- The node of a path, given its children. -/
def nodeAt (store : Store) (path : String) (children : List ProjectNode) : ProjectNode :=
  match store.files.get? path with
  | some file => .leaf
    ⟨ProjectNode.idOr path file.nodeId, Path.name path, .file, some file.content, file.mimeType⟩
  | none => .branch ⟨path, Path.name path, .folder, none, none⟩ children

/-- A finished node with the folder on which it hangs. -/
abbrev Waiting := Option String × ProjectNode

/-- The waiting nodes once the one of `path` is built: it takes those that hang on it. -/
def hang (store : Store) (path : String) (waiting : List Waiting) : List Waiting :=
  let (own, others) := waiting.partition fun w => w.1 == some path
  (store.owner? path, store.nodeAt path (own.map (·.2))) :: others

/-- The project tree that shows a store. -/
def tree (store : Store) : List ProjectNode :=
  (store.treePaths.foldr store.hang []).map (·.2)

end Store
end EditorShell

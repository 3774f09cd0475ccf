import EditorShell.Project.Node
import EditorShell.Store.Edit
import EditorShell.Text.Quoted

/-!
# From a project tree to a store

A folder becomes a directory and a file node a file at the path that the names above it spell. A
node whose name is no segment of a path is passed over with all below it, and so is a node whose
path is taken by a node of the other kind; of two files with one path the later one writes over the
earlier.
-/

namespace EditorShell

/-- A node that was passed over. -/
inductive ImportWarning where
  | invalidName (name : String)
  /-- The folder's path is taken by a file. -/
  | folderOverFile (path : String)
  /-- The file's path is taken by a folder. -/
  | fileOverFolder (path : String)
deriving DecidableEq, Repr

/-- The warning in words. -/
def ImportWarning.message : ImportWarning → String
  | .invalidName name => "skipping project node with invalid name " ++ Text.quoted name
  | .folderOverFile path => "skipping folder " ++ path ++ ": a file already uses that path"
  | .fileOverFolder path => "skipping file " ++ path ++ ": a folder already uses that path"

/-- A store under construction, with the warnings so far in order. -/
structure Importing where
  store : Store
  warnings : List ImportWarning
deriving Repr

namespace Importing

/-- One more warning. -/
def warn (state : Importing) (warning : ImportWarning) : Importing :=
  { state with warnings := state.warnings ++ [warning] }

/-- The directory at `path`, which counts as no change. -/
def addDirectory (state : Importing) (path : String) : Importing :=
  { state with store := { state.store with directories := state.store.directories.insert path } }

/-- The file at `path` with the directories above it. -/
def addFile (state : Importing) (path : String) (info : NodeInfo) : Importing :=
  let store := state.store
  let directories := (Path.ancestors path).foldl (fun ds d => ds.insert d) store.directories
  let files := Store.writeIn store.files path (info.content.getD "") false info.mimeType
  let written := { store with
    directories := directories, files := files, revision := store.revision + 1 }
  { state with store := written.setNodeId path (some info.id) }

mutual

/-- A node, and what is below it, in the directory `parent`. -/
def node (state : Importing) (parent : String) : ProjectNode → Importing
  | .leaf info =>
    let path := Path.child parent info.name
    if !decide (Path.IsSegment info.name) then state.warn (.invalidName info.name)
    else match info.kind with
      | .folder =>
        if state.store.isFile path then state.warn (.folderOverFile path)
        else state.addDirectory path
      | .file =>
        if state.store.isDirectory path then state.warn (.fileOverFolder path)
        else state.addFile path info
  | .branch info children =>
    let path := Path.child parent info.name
    if !decide (Path.IsSegment info.name) then state.warn (.invalidName info.name)
    else match info.kind with
      | .folder =>
        if state.store.isFile path then state.warn (.folderOverFile path)
        else nodes (state.addDirectory path) path children
      | .file =>
        if state.store.isDirectory path then state.warn (.fileOverFolder path)
        else state.addFile path info

/-- Nodes from left to right in the directory `parent`. -/
def nodes (state : Importing) (parent : String) : List ProjectNode → Importing
  | [] => state
  | n :: ns => nodes (node state parent n) parent ns

end

end Importing

namespace Store

/-- The store rebuilt from a project tree. The working directory stays if it is a directory of the
new tree, and is the root otherwise. -/
def load (store : Store) (tree : List ProjectNode) : Importing :=
  let built := Importing.nodes ⟨store.clear, []⟩ Path.root tree
  if built.store.isDirectory store.cwd then
    { built with store := { built.store with cwd := store.cwd } }
  else built

/-- A fresh store with the files and folders of a project tree. -/
def ofTree (tree : List ProjectNode) : Store := (empty.load tree).store

end Store
end EditorShell

import EditorShell.Path
import EditorShell.Table

/-!
# The store

The files of a project live in a flat store: a set of directory paths, a table from file paths to
files, the working directory, and a counter of changes. Which directory holds which path is read off
the paths alone. This module has the types and the queries; none of the queries changes anything.
-/

namespace EditorShell

/-- A file: its text, and what the editor keeps with it. -/
structure File where
  content : String
  mimeType : Option String
  /-- The identity under which the editor knows the file. -/
  nodeId : Option String
deriving DecidableEq, Repr

namespace File

/-- Length in bytes of the UTF-8 form. -/
def size (file : File) : Nat := file.content.utf8ByteSize

end File

/-- Directories and files by path. -/
structure Store where
  /-- The directories, each once. -/
  directories : List String
  /-- The files, in order of creation. -/
  files : Table File
  /-- The working directory. -/
  cwd : String
  /-- Counts changes, so that equal counts mean that nothing changed. -/
  revision : Nat
deriving DecidableEq, Repr

/-- Why the store refuses an operation. -/
inductive StoreError where
  | notFound (path : String)
  | alreadyExists (path : String)
  | isDirectory (path : String)
  | notDirectory (path : String)
  | notEmpty (path : String)
  | insideItself (path : String)
  | rootRemoved
  | rootRelocated
deriving DecidableEq, Repr

/-- The refusal in words. -/
def StoreError.message : StoreError → String
  | .notFound path => path ++ ": No such file or directory"
  | .alreadyExists path => path ++ ": File exists"
  | .isDirectory path => path ++ ": Is a directory"
  | .notDirectory path => path ++ ": Not a directory"
  | .notEmpty path => path ++ ": Directory not empty"
  | .insideItself path => path ++ ": Cannot place a directory inside itself"
  | .rootRemoved => "/: Cannot remove root directory"
  | .rootRelocated => "/: Cannot move or copy the root directory"

/-- A direct child of a directory, as listings show it. -/
structure Child where
  name : String
  path : String
  isDirectory : Bool
  /-- Bytes of a file; zero for a directory. -/
  size : Nat
deriving DecidableEq, Repr

namespace Store

/-- The store that holds the root and nothing else. -/
def empty : Store := ⟨[Path.root], .empty, Path.root, 0⟩

instance : Inhabited Store := ⟨empty⟩

/-- A directory lives at `path`. -/
def isDirectory (store : Store) (path : String) : Bool := store.directories.contains path

/-- A file lives at `path`. -/
def isFile (store : Store) (path : String) : Bool := store.files.contains path

@[simp] theorem isDirectory_iff {store : Store} {path : String} :
    store.isDirectory path = true ↔ path ∈ store.directories := by simp [isDirectory]

@[simp] theorem isFile_iff {store : Store} {path : String} :
    store.isFile path = true ↔ path ∈ store.files.keys := by simp [isFile]

/-- Something lives at `path`. -/
def isTaken (store : Store) (path : String) : Bool := store.isDirectory path || store.isFile path

/-- The file at `path`. -/
def file (store : Store) (path : String) : Except StoreError File :=
  match store.files.get? path with
  | some file => .ok file
  | none => .error (if store.isDirectory path then .isDirectory path else .notFound path)

/-- The text of the file at `path`. -/
def read (store : Store) (path : String) : Except StoreError String :=
  (store.file path).map (·.content)

/-- The directories whose parent is `path`. -/
def childDirectories (store : Store) (path : String) : List Child :=
  (store.directories.filter fun d => d ≠ Path.root && Path.parent d = path).map fun d =>
    ⟨Path.name d, d, true, 0⟩

/-- The files whose parent is `path`. -/
def childFiles (store : Store) (path : String) : List Child :=
  (store.files.entries.filter fun entry => Path.parent entry.1 = path).map fun entry =>
    ⟨Path.name entry.1, entry.1, false, entry.2.size⟩

/-- The direct children of a directory in the order of their names. -/
def children (store : Store) (path : String) : List Child :=
  if store.isDirectory path then
    (store.childDirectories path ++ store.childFiles path).mergeSort
      fun a b => decide (a.name ≤ b.name)
  else []

/-- The directories strictly below `path`. -/
def directoriesBelow (store : Store) (path : String) : List String :=
  store.directories.filter (Path.isBelow · path)

/-- The files strictly below `path`. -/
def filesBelow (store : Store) (path : String) : List String :=
  store.files.keys.filter (Path.isBelow · path)

/-- A path found by a walk, and whether it is a directory. -/
abbrev Found := String × Bool

/-- Paths in code point order; a file comes before a directory of the same path. -/
def Found.le (a b : Found) : Bool := a.1 < b.1 || (a.1 = b.1 && a.2 ≤ b.2)

/-- Everything at and below `path`, in order: a file alone, or a directory with what it holds. -/
def walk (store : Store) (path : String) : Except StoreError (List Found) :=
  if store.isFile path then .ok [(path, false)]
  else if store.isDirectory path then
    let directories := store.directories.filter (Path.isWithin · path)
    .ok <| (directories.map (·, true) ++ (store.filesBelow path).map (·, false)).mergeSort Found.le
  else .error (.notFound path)

end Store
end EditorShell

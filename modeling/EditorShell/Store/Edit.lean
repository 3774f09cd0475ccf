import EditorShell.Store.Basic

/-!
# Changing the store

Each operation first checks everything that can stand in its way and then changes the store, so it
answers either with a refusal or with the new store. Only moving a file has a second check, of the
source, after the target is written; `moveFile` therefore answers with the store it leaves behind
in either case. The revision grows by one for each file or directory that is created, updated or
removed.
-/

namespace EditorShell
namespace Store

/-- Makes `path` the working directory. -/
def changeDirectory (store : Store) (path : String) : Except StoreError Store :=
  if store.isDirectory path then .ok { store with cwd := path } else .error (.notFound path)

/-- Adds a directory without looking at anything else. -/
def addDirectory (store : Store) (path : String) : Store :=
  { store with directories := store.directories.insert path, revision := store.revision + 1 }

/-- Adds directories in order. -/
def addDirectories (store : Store) (paths : List String) : Store := paths.foldl addDirectory store

@[simp] theorem mem_directories_addDirectory {store : Store} {path directory : String} :
    directory ∈ (store.addDirectory path).directories ↔
      directory = path ∨ directory ∈ store.directories := by
  simp [addDirectory]

theorem addDirectories_cons (store : Store) (path : String) (paths : List String) :
    store.addDirectories (path :: paths) = (store.addDirectory path).addDirectories paths := rfl

@[simp] theorem mem_directories_addDirectories {store : Store} {paths : List String}
    {directory : String} :
    directory ∈ (store.addDirectories paths).directories ↔
      directory ∈ paths ∨ directory ∈ store.directories := by
  induction paths generalizing store with
  | nil => simp [addDirectories]
  | cons path paths ih => rw [addDirectories_cons, ih, mem_directories_addDirectory]; grind

@[simp] theorem files_addDirectories (store : Store) (paths : List String) :
    (store.addDirectories paths).files = store.files := by
  induction paths generalizing store with
  | nil => rfl
  | cons path paths ih => rw [addDirectories_cons, ih]; rfl

/-- Every directory that is added counts once. -/
@[simp] theorem revision_addDirectories (store : Store) (paths : List String) :
    (store.addDirectories paths).revision = store.revision + paths.length := by
  induction paths generalizing store with
  | nil => rfl
  | cons path paths ih =>
    rw [addDirectories_cons, ih, List.length_cons]
    simp only [addDirectory]
    omega

/-- Creates a directory. With `parents`, missing directories above it are created as well and a
directory that is there already is no error. -/
def createDirectory (store : Store) (path : String) (parents : Bool) : Except StoreError Store :=
  if store.isFile path then .error (.alreadyExists path)
  else if store.isDirectory path then
    if parents then .ok store else .error (.alreadyExists path)
  else
    let missing := (Path.ancestors path).filter (!store.isDirectory ·)
    if !missing.isEmpty && !parents then .error (.notFound path)
    else match missing.find? store.isFile with
      | some file => .error (.notDirectory file)
      | none => .ok (store.addDirectories (missing ++ [path]))

/-- The file after writing `content` over it, or at its end. A type that is given replaces the old
one. -/
def updated (file : File) (content : String) (append : Bool) (mimeType : Option String) :
    File where
  content := if append then file.content ++ content else content
  mimeType := mimeType.or file.mimeType
  nodeId := file.nodeId

/-- The files after writing `content` at `path`. -/
def writeIn (files : Table File) (path content : String) (append : Bool)
    (mimeType : Option String) : Table File :=
  match files.get? path with
  | none => files.set path ⟨content, mimeType, none⟩
  | some file => files.set path (updated file content append mimeType)

@[simp] theorem get?_writeIn (files : Table File) (path content : String) (append : Bool)
    (mimeType : Option String) (other : String) :
    (writeIn files path content append mimeType).get? other =
      if other = path then
        some (match files.get? path with
          | none => ⟨content, mimeType, none⟩
          | some file => updated file content append mimeType)
      else files.get? other := by
  unfold writeIn
  split <;> simp

/-- Creates, overwrites or extends the file at `path`, whose parent must be a directory. -/
def writeFile (store : Store) (path content : String) (append : Bool)
    (mimeType : Option String) : Except StoreError Store :=
  if path = Path.root || store.isDirectory path then .error (.isDirectory path)
  else if !store.isDirectory (Path.parent path) then .error (.notFound path)
  else .ok { store with
    files := writeIn store.files path content append mimeType, revision := store.revision + 1 }

/-- Creates an empty file unless something lives at `path`. -/
def touch (store : Store) (path : String) : Except StoreError Store :=
  if store.isTaken path then .ok store else store.writeFile path "" false none

/-- Removes a file. -/
def deleteFile (store : Store) (path : String) : Except StoreError Store :=
  if store.isDirectory path then .error (.isDirectory path)
  else if !store.isFile path then .error (.notFound path)
  else .ok { store with files := store.files.erase path, revision := store.revision + 1 }

/-- The files outside `path`. -/
def filesOutside (files : Table File) (path : String) : Table File where
  entries := files.entries.filter (!Path.isBelow ·.1 path)
  nodup := files.nodup.sublist (List.filter_sublist.map _)

/-- Removes a directory, with `recursive` also when it holds something. A working directory that
goes away with it is replaced by the parent of `path`. -/
def deleteDirectory (store : Store) (path : String) (recursive : Bool) : Except StoreError Store :=
  if path = Path.root then .error .rootRemoved
  else if store.isFile path then .error (.notDirectory path)
  else if !store.isDirectory path then .error (.notFound path)
  else
    let files := store.filesBelow path
    let directories := store.directoriesBelow path
    if !(files.isEmpty && directories.isEmpty) && !recursive then .error (.notEmpty path)
    else .ok {
      directories := store.directories.filter (!Path.isWithin · path)
      files := filesOutside store.files path
      cwd := if Path.isWithin store.cwd path then Path.parent path else store.cwd
      revision := store.revision + files.length + directories.length + 1 }

/-- Gives the file at `path` another identity. -/
def setNodeId (store : Store) (path : String) (nodeId : Option String) : Store :=
  match store.files.get? path with
  | some file => { store with files := store.files.set path { file with nodeId := nodeId } }
  | none => store

/-- Copies the text and the type of a file. Copying a file onto itself does nothing. -/
def copyFile (store : Store) (source target : String) : Except StoreError Store :=
  match store.files.get? source with
  | none => .error (.notFound source)
  | some file =>
    if target = source then .ok store
    else store.writeFile target file.content false file.mimeType

/-- Gives the file at `target` the identity of the one at `source`. -/
def carryNodeId (store : Store) (source target : String) : Store :=
  match store.files.get? source with
  | some file => store.setNodeId target file.nodeId
  | none => store

/-- A store, and the refusal that ended the operation if there was one. -/
abbrev Attempt := Store × Option StoreError

/-- What is left when an operation either refuses and changes nothing, or succeeds. -/
def attempt (store : Store) : Except StoreError Store → Attempt
  | .ok changed => (changed, none)
  | .error error => (store, some error)

/-- Moves a file, identity and all. Moving a file onto itself does nothing. -/
def moveFile (store : Store) (source target : String) : Attempt :=
  match store.copyFile source target with
  | .error error => (store, some error)
  | .ok copied =>
    if target = source then (copied, none)
    else
      let carried := copied.carryNodeId source target
      carried.attempt (carried.deleteFile source)

/-- Forgets everything but the root. -/
def clear (store : Store) : Store := { empty with revision := store.revision + 1 }

end Store
end EditorShell

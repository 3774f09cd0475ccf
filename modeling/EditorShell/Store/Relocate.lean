import EditorShell.Store.Edit

/-!
# Copying and moving directories

A directory is relocated by renaming every path at and below it: `Path.moved source target`. The
directories come first, then the files, each in path order. A move carries the identities of the
files along, removes the source, and takes the working directory with it.
-/

namespace EditorShell
namespace Store

/-- What stands in the way of placing the directory `source` at `target`. -/
def relocationError? (store : Store) (source target : String) : Option StoreError :=
  if source = Path.root then some .rootRelocated
  else if !store.isDirectory source then some (.notFound source)
  else if Path.isWithin target source then some (.insideItself target)
  else if store.isTaken target then some (.alreadyExists target)
  else if !store.isDirectory (Path.parent target) then some (.notFound target)
  else none

/-- Copies each file to its place, and its identity too if `carryIds`; stops at the first file
that cannot be written. -/
def copyFiles (place : String → String) (carryIds : Bool) : List String → Store → Attempt
  | [], store => (store, none)
  | path :: paths, store =>
    match store.copyFile path (place path) with
    | .error error => (store, some error)
    | .ok copied =>
      copyFiles place carryIds paths
        (if carryIds then copied.carryNodeId path (place path) else copied)

/-- Copies everything at and below `source`. -/
def copySubtree (store : Store) (source target : String) (carryIds : Bool) : Attempt :=
  let place := Path.moved source target
  let directories := Text.sort (store.directories.filter (Path.isWithin · source))
  copyFiles place carryIds (Text.sort (store.filesBelow source))
    (store.addDirectories (directories.map place))

/-- Copies a directory with all it holds to a path that is free. -/
def copyDirectory (store : Store) (source target : String) : Attempt :=
  match store.relocationError? source target with
  | some error => (store, some error)
  | none => store.copySubtree source target false

/-- Moves a directory with all it holds to a path that is free. -/
def moveDirectory (store : Store) (source target : String) : Attempt :=
  match store.relocationError? source target with
  | some error => (store, some error)
  | none =>
    match store.copySubtree source target true with
    | (copied, some error) => (copied, some error)
    | (copied, none) =>
      match copied.deleteDirectory source true with
      | .error error => (copied, some error)
      | .ok removed =>
        if Path.isWithin copied.cwd source then
          ({ removed with cwd := Path.moved source target copied.cwd }, none)
        else (removed, none)

end Store
end EditorShell

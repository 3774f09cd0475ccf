import EditorShell.Store.Basic

/-!
# Well-formed stores

A store is well formed if its paths are canonical, the root and the working directory are
directories, no path is both a file and a directory, and everything above a file or directory is a
directory. `violation?` looks for the first fault and is blind only to the form of the paths.
-/

namespace EditorShell

/-- A fault of a store. -/
inductive Violation where
  | rootMissing
  | cwdMissing (cwd : String)
  | ambiguous (path : String)
  | orphan (path ancestor : String)
deriving DecidableEq, Repr

/-- The fault in words. -/
def Violation.message : Violation → String
  | .rootMissing => "root directory missing"
  | .cwdMissing cwd => "cwd " ++ cwd ++ " is not a directory"
  | .ambiguous path => path ++ " is both a file and a directory"
  | .orphan path ancestor => path ++ " has no parent " ++ ancestor

namespace Store

/-- The first directory above `path` that is missing, from the root down. -/
def missingAncestor? (store : Store) (path : String) : Option Violation :=
  ((Path.ancestors path).find? (!store.isDirectory ·)).map (.orphan path)

/-- The first fault: of the root, of the working directory, of a file that is also a directory, and
then of a file or directory without parent. -/
def violation? (store : Store) : Option Violation :=
  if !store.isDirectory Path.root then some .rootMissing
  else if !store.isDirectory store.cwd then some (.cwdMissing store.cwd)
  else match store.files.keys.find? store.isDirectory with
    | some path => some (.ambiguous path)
    | none => (store.files.keys ++ store.directories).findSome? store.missingAncestor?

/-- The store obeys all rules. -/
structure WellFormed (store : Store) : Prop where
  root_mem : Path.root ∈ store.directories
  cwd_mem : store.cwd ∈ store.directories
  not_both : ∀ path ∈ store.files.keys, path ∉ store.directories
  ancestor_mem : ∀ path, path ∈ store.files.keys ∨ path ∈ store.directories →
    ∀ ancestor ∈ Path.ancestors path, ancestor ∈ store.directories
  canonical : ∀ path, path ∈ store.files.keys ∨ path ∈ store.directories → Path.IsCanonical path
  nodup : store.directories.Nodup

theorem wellFormed_empty : WellFormed empty where
  root_mem := by simp [empty]
  cwd_mem := by simp [empty]
  not_both := by simp [empty, Table.empty, Table.keys]
  ancestor_mem := by simp [empty, Table.empty, Table.keys]
  canonical := by simp [empty, Table.empty, Table.keys, Path.isCanonical_root]
  nodup := by simp [empty]

end Store
end EditorShell

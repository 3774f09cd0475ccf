import EditorShell.Command

/-!
# Commands about directories

`pwd`, `cd`, `ls` and `tree`. Names that start with a point are hidden unless they are asked for.
-/

namespace EditorShell
namespace Builtin

/-- Shows the working directory. -/
def pwd (_ : Surroundings) (session : Session) (_ : List String) : Outcome :=
  .ok (.ok session.store.cwd)

/-- The session after going to `path`; where it was is remembered. -/
def go (session : Session) (path : String) : Session :=
  { session with
    store := { session.store with cwd := path }
    environment := (session.environment.set "OLDPWD" session.store.cwd).set "PWD" path }

/-- Changes the working directory: without an operand to the home, with `-` to the previous one,
which is then shown. -/
def cd (s : Surroundings) (session : Session) (args : List String) : Session × Outcome :=
  match args with
  | _ :: _ :: _ => (session, .error (.usage "cd: too many arguments"))
  | _ =>
    let typed := args.head?.getD (session.environment.getD "HOME" "/")
    let back := typed = "-"
    let target := if back then session.environment.getD "OLDPWD" session.store.cwd else typed
    let path := session.resolve s.settings target
    if session.store.isDirectory path then
      (go session path, .ok (.ok (if back then path else "")))
    else (session, .error (.refused ("cd: no such file or directory: " ++ target)))

/-- The children of a directory that are shown. -/
def shown (store : Store) (hidden : Bool) (directory : String) : List Child :=
  (store.children directory).filter fun child => hidden || !Text.startsWith child.name "."

/-- The name as listings show it: a directory's with a slash. -/
def displayName (child : Child) : String :=
  if child.isDirectory then child.name ++ "/" else child.name

/-! ## Listings -/

/-- The line of a long listing. -/
def longLine (today : Date) (child : Child) : String :=
  let (mode, size) :=
    if child.isDirectory then ("drwxr-xr-x  2", 4096) else ("-rw-r--r--  1", child.size)
  mode ++ " developer developer " ++ Text.padLeft 6 (toString size) ++ " " ++ today.text ++ " " ++
    displayName child

/-- How `ls` was asked to list. -/
structure ListingMode where
  hidden : Bool
  long : Bool

/-- An argument of `ls` that is an option. -/
def isListingOption (arg : String) : Bool := Text.startsWith arg "-" && arg != "-"

/-- The mode that options ask for by the letters in them. -/
def listingMode (args : List String) : ListingMode :=
  let letters := (args.filter isListingOption).flatMap String.toList
  ⟨letters.contains 'a' || letters.contains 'A', letters.contains 'l'⟩

/-- The listing of a directory; empty if nothing is shown. -/
def listing (today : Date) (mode : ListingMode) (store : Store) (path : String) : String :=
  Text.joinLines <| (shown store mode.hidden path).map <|
    if mode.long then longLine today else displayName

/-- The blocks of the targets, each with a title if there are `several`. The first target that is no
directory ends the command. -/
def listingBlocks (s : Surroundings) (session : Session) (mode : ListingMode) (several : Bool) :
    List String → Except Failure (List String)
  | [] => .ok []
  | target :: targets => do
    let path := session.resolve s.settings target
    if !session.store.isDirectory path then
      throw (.refused ("ls: cannot access '" ++ target ++ "': No such file or directory"))
    let rest ← listingBlocks s session mode several targets
    let title := if several then [target ++ ":"] else []
    return title ++ listing s.today mode session.store path :: rest

/-- Lists directories, with `-a` hidden names too and with `-l` in long form. -/
def ls (s : Surroundings) (session : Session) (args : List String) : Outcome :=
  let typed := args.filter (!isListingOption ·)
  let targets := if typed.isEmpty then ["."] else typed
  match listingBlocks s session (listingMode args) (1 < targets.length) targets with
  | .error failure => .error failure
  | .ok blocks => .ok (.ok (Text.joinLines (blocks.filter (· ≠ ""))))

/-! ## Trees -/

/-- A line of a tree, and whether it stands for a directory. -/
structure TreeRow where
  text : String
  isDirectory : Bool
deriving DecidableEq, Repr

/-- How many directories of the store lie deeper than `directory`. -/
def depthBelow (store : Store) (directory : String) : Nat :=
  (store.directories.filter fun d => Path.height directory < Path.height d).length

theorem mem_of_mem_children {store : Store} {directory : String} {child : Child}
    (h : child ∈ store.children directory) (hdir : child.isDirectory = true) :
    child.path ∈ store.directories ∧ child.path ≠ Path.root ∧
      Path.parent child.path = directory := by
  unfold Store.children at h
  split at h
  · rw [List.mem_mergeSort, List.mem_append] at h
    rcases h with h | h
    · simp only [Store.childDirectories, List.mem_map, List.mem_filter, Bool.and_eq_true,
        decide_eq_true_eq] at h
      obtain ⟨d, ⟨hd, hroot, hparent⟩, rfl⟩ := h
      exact ⟨hd, by simpa using hroot, by simpa using hparent⟩
    · simp only [Store.childFiles, List.mem_map] at h
      obtain ⟨_, _, rfl⟩ := h
      simp at hdir
  · simp at h

theorem depthBelow_lt {store : Store} {directory : String} {child : Child}
    (h : child ∈ store.children directory) (hdir : child.isDirectory = true) :
    depthBelow store child.path < depthBelow store directory := by
  obtain ⟨hmem, hroot, hparent⟩ := mem_of_mem_children h hdir
  have hlt : Path.height directory < Path.height child.path := by
    rw [← hparent]; exact Path.height_parent_lt hroot
  unfold depthBelow
  have hsub : (store.directories.filter fun d => Path.height child.path < Path.height d) =
      (store.directories.filter fun d => Path.height directory < Path.height d).filter
        fun d => Path.height child.path < Path.height d := by
    rw [List.filter_filter]
    refine List.filter_congr fun d _ => ?_
    by_cases hd : Path.height child.path < Path.height d
    · simp [hd, Nat.lt_trans hlt hd]
    · simp [hd]
  rw [hsub]
  refine List.length_filter_lt_length_iff_exists.2 ⟨child.path, ?_, ?_⟩
  · simp [hmem, hlt]
  · simp

/-- The lines for everything shown below a directory, each after `indent`. A directory's line comes
before those of its children. -/
def treeRows (store : Store) (hidden : Bool) (indent directory : String) : List TreeRow :=
  let rows := (store.children directory).attach.filter fun child =>
    hidden || !Text.startsWith child.1.name "."
  rows.zipIdx.flatMap fun (⟨child, _h⟩, i) =>
    let last := i + 1 == rows.length
    let connector := if last then "└── " else "├── "
    ⟨indent ++ connector ++ displayName child, child.isDirectory⟩ ::
      if _hdir : child.isDirectory = true then
        treeRows store hidden (indent ++ if last then "    " else "│   ") child.path
      else []
termination_by depthBelow store directory
decreasing_by exact depthBelow_lt _h _hdir

/-- Draws everything below a directory, with `-a` hidden names too, and counts what it has drawn. -/
def tree (s : Surroundings) (session : Session) (args : List String) : Outcome :=
  let target := (args.filter (· ≠ "-a")).head?.getD "."
  let path := session.resolve s.settings target
  if !session.store.isDirectory path then
    .error (.refused ("tree: " ++ target ++ ": No such file or directory"))
  else
    let rows := treeRows session.store (args.contains "-a") "" path
    let directories := (rows.filter (·.isDirectory)).length
    let files := (rows.filter (!·.isDirectory)).length
    .ok <| .ok <| Text.joinLines <| target :: rows.map (·.text) ++
      ["", toString directories ++ " directories, " ++ toString files ++ " files"]

/-- The commands of this module. -/
def listingCommands : List Command := [
  ⟨⟨"pwd", "Print working directory", "", "core", .never⟩, .view pwd⟩,
  ⟨⟨"cd", "Change directory", "cd [path]", "core", .never⟩, .edit cd⟩,
  ⟨⟨"ls", "List directory contents", "ls [-a] [-l] [path]", "core", .never⟩, .view ls⟩,
  ⟨⟨"tree", "Render tree view", "tree [-a] [path]", "core", .never⟩, .view tree⟩]

end Builtin
end EditorShell

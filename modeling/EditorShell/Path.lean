import EditorShell.Text.Basic

/-!
# Paths

A path is a text. The canonical paths are `/` and the paths `/a/b/c` whose segments are neither
empty nor `.` nor `..`; `Path.IsCanonical` says so through the list of segments, and
`Path.ofSegments` writes that list. `normalize` and `resolve` turn whatever a user types into a
canonical path. The other functions are meant for canonical paths and are defined on every text;
none of them asks whether a path exists.
-/

namespace EditorShell
namespace Path

/-- The directory that holds all others. -/
def root : String := "/"

/-! ## Segments -/

/-- A segment that names a file or directory: it is not empty, has no slash, and is none of the
two names that stand for a directory relative to another. -/
def IsSegment (s : String) : Prop := s ≠ "" ∧ s ≠ "." ∧ s ≠ ".." ∧ '/' ∉ s.toList

instance (s : String) : Decidable (IsSegment s) := inferInstanceAs (Decidable (_ ∧ _))

/-- The absolute path through the given segments. -/
def ofSegments (segments : List String) : String := root ++ "/".intercalate segments

/-- A path in canonical form. -/
def IsCanonical (path : String) : Prop :=
  ∃ segments : List String, (∀ s ∈ segments, IsSegment s) ∧ path = ofSegments segments

theorem isCanonical_root : IsCanonical root := ⟨[], by simp, by simp [ofSegments]⟩

/-- The segments of a path that say where to go: those that are empty or `.` stay where they
are and are left out. -/
def segments (path : String) : List String :=
  (Text.split '/' path).filter fun s => s ≠ "" ∧ s ≠ "."

/-- One segment further from the directory with the given segments: `..` goes up, and stays at
the root. -/
def step (directory : List String) (segment : String) : List String :=
  if segment = ".." then directory.dropLast else directory ++ [segment]

/-- The canonical form of an absolute path. -/
def normalize (path : String) : String := ofSegments ((segments path).foldl step [])

/-! ## Parents and names -/

/-- The directory that holds `path`; the root holds itself. -/
def parent (path : String) : String :=
  if path = root then root
  else match Text.partitionLast? '/' path with
    | some (head, _) => if head = "" then root else head
    | none => root

/-- The last segment. -/
def name (path : String) : String :=
  match Text.partitionLast? '/' path with
  | some (_, last) => last
  | none => path

/-- The path of `name` in `directory`. -/
def child (directory name : String) : String :=
  if directory = root then root ++ name else directory ++ "/" ++ name

/-- Distance to the root in a weak sense: it falls from every path to its parent. -/
def height (path : String) : Nat := if path = root then 0 else path.length + 1

theorem height_parent_lt {path : String} (h : path ≠ root) :
    height (parent path) < height path := by
  unfold parent
  rw [if_neg h]
  split
  next head tail hcut =>
    split
    · simp [height, h]
    · obtain ⟨⟨before, after⟩, hb, heq⟩ := Option.map_eq_some_iff.1 hcut
      obtain ⟨rfl, rfl⟩ := Prod.mk.inj heq
      have := congrArg List.length (Text.append_of_cutLast? hb).1
      simp only [List.length_append, List.length_cons, String.length_toList] at this
      simp only [height, h, if_false]
      split
      · simp
      · simp; omega
  · simp [height, h]

/-- The directories above `path`, from the root down. -/
def ancestors (path : String) : List String :=
  if path = root then [] else ancestors (parent path) ++ [parent path]
termination_by height path
decreasing_by exact height_parent_lt (by assumption)

@[simp] theorem ancestors_root : ancestors root = [] := by rw [ancestors]; simp

/-- `path` lies strictly below `directory`. -/
def isBelow (path directory : String) : Bool :=
  if path = directory then false
  else if directory = root then Text.startsWith path root
  else Text.startsWith path (directory ++ "/")

/-- `path` is `directory` or lies below it. -/
def isWithin (path directory : String) : Bool := path == directory || isBelow path directory

/-! ## Moving and displaying -/

/-- Where `path`, at or below `source`, lands when `source` becomes `target`. -/
def moved (source target path : String) : String :=
  if path = source then target
  else
    let rest := if source = root then path else Text.drop source.length path
    if target = root then rest else target ++ rest

/-- What a typed path means in the directory `cwd`. -/
def resolve (cwd path : String) : String :=
  if path = "" || path = "." then cwd
  else if path = ".." then parent cwd
  else if Text.startsWith path root then normalize path
  else if cwd = root then normalize (root ++ path)
  else normalize (cwd ++ "/" ++ path)

/-- The path as it is shown to a user whose home is `home`. -/
def abbreviate (home path : String) : String :=
  if path = home then "~"
  else if home = root then "~" ++ path
  else if isBelow path home then "~" ++ Text.drop home.length path
  else path

end Path
end EditorShell

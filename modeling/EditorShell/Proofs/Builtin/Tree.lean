import EditorShell.Builtin.Searching
import EditorShell.Proofs.Builtin.Outline
import EditorShell.Proofs.Path.Resolve

/-!
# Trees and searches

`tree` goes from directory to directory and hands each the indentation of the lines in it. Each line
can be told from its path alone (`rowText`): there is a column for every directory on the way, and
it is empty below the last one of its directory. So what is drawn is the outline, line by line
(`treeRows_eq_map`).

`find` goes through all paths of the store instead and keeps those that begin with the working
directory. In a well-formed store both find the same (`tree_agrees_find`).
-/

namespace EditorShell
namespace Builtin

variable {store : Store} {hidden : Bool} {d r p : String} {c : Child} {found : Store.Found}

/-! ## Lines -/

/-- The path is the last one of its directory that is shown. -/
def isLast (store : Store) (hidden : Bool) (path : String) : Bool :=
  (shown store hidden (Path.parent path)).getLast?.any (·.path == path)

/-- What stands under the line of a path in the lines below it. -/
def column (store : Store) (hidden : Bool) (path : String) : String :=
  if isLast store hidden path then "    " else "│   "

/-- What stands before the lines in a directory when `r` is drawn: a column for each directory
between. -/
def indentation (store : Store) (hidden : Bool) (r directory : String) : String :=
  String.join (((Path.ancestors directory ++ [directory]).filter (Path.isBelow · r)).map
    (column store hidden))

/-- The line of a path when `r` is drawn. -/
def rowText (store : Store) (hidden : Bool) (r : String) : Store.Found → String
  | (path, isDirectory) =>
    indentation store hidden r (Path.parent path) ++
      (if isLast store hidden path then "└── " else "├── ") ++
      (Path.name path ++ if isDirectory then "/" else "")

/-- The line with what it stands for. -/
def row (store : Store) (hidden : Bool) (r : String) (found : Store.Found) : TreeRow :=
  ⟨rowText store hidden r found, found.2⟩

theorem displayName_eq (c : Child) :
    displayName c = c.name ++ if c.isDirectory then "/" else "" := by
  unfold displayName
  split <;> simp

/-- The lines in `r` itself stand at the margin. -/
theorem indentation_self (hr : Path.IsCanonical r) : indentation store hidden r r = "" := by
  have hnone : (Path.ancestors r ++ [r]).filter (Path.isBelow · r) = [] := by
    refine List.filter_eq_nil_iff.2 fun a ha hbelow => ?_
    rw [List.mem_append, List.mem_singleton] at ha
    rcases ha with ha | rfl
    · have ha' := Path.isCanonical_of_mem_ancestors hr ha
      have habove := (Path.mem_ancestors_iff hr ha').1 ha
      rw [Path.isBelow_iff, Path.isWithin_eq_false_of_isBelow hr ha' habove] at hbelow
      cases hbelow.1
    · simp at hbelow
  rw [indentation, hnone]
  rfl

/-- The lines in a child have one column more than those beside it. -/
theorem indentation_child {n : String} (hr : Path.IsCanonical r) (hd : Path.IsCanonical d)
    (hn : Path.IsSegment n) (hin : Path.isWithin d r = true) :
    indentation store hidden r (Path.child d n) =
      indentation store hidden r d ++ column store hidden (Path.child d n) := by
  have hbelow : Path.isBelow (Path.child d n) r = true := by rwa [Path.isBelow_child hd hn hr]
  rw [indentation, Path.ancestors_child hd hn, List.filter_append, List.map_append,
    String.join_append, ← indentation]
  simp [hbelow]

/-- Of items with different keys only the last one has the key of the last one. -/
theorem succ_beq_length {α : Type} {key : α → String} {items : List α}
    (hnodup : (items.map key).Nodup) {a : α} {i : Nat} (h : (a, i) ∈ items.zipIdx) :
    (i + 1 == items.length) = items.getLast?.any (key · == key a) := by
  have hi : items[i]? = some a := List.mem_zipIdx_iff_getElem?.1 h
  have hlt : i < items.length := (List.getElem?_eq_some_iff.1 hi).1
  rw [List.getLast?_eq_getElem?]
  by_cases hlast : i + 1 = items.length
  · have hpos : items.length - 1 = i := by omega
    simp [hpos, hi, hlast]
  · have hlt' : items.length - 1 < items.length := by omega
    have hne : key items[items.length - 1] ≠ key a := by
      intro heq
      have hsame : (items.map key)[items.length - 1]? = (items.map key)[i]? := by
        rw [List.getElem?_map, List.getElem?_map, hi, List.getElem?_eq_getElem hlt']
        exact congrArg some heq
      have hpos := (List.getElem?_inj (by rwa [List.length_map]) hnodup).1 hsame
      omega
    rw [List.getElem?_eq_getElem hlt', Option.any_some, beq_eq_false_iff_ne.2 hne,
      beq_eq_false_iff_ne.2 hlast]

section WellFormed

variable (h : store.WellFormed)
include h

theorem nodup_path_shown (d : String) : ((shown store hidden d).map (·.path)).Nodup := by
  refine List.pairwise_map.2 (((h.pairwise_children d).filter _).imp_of_mem ?_)
  intro a b ha hb hlt heq
  rw [Store.name_of_mem_children (List.mem_of_mem_filter ha),
    Store.name_of_mem_children (List.mem_of_mem_filter hb), heq] at hlt
  exact lt_irrefl _ hlt

/-- The lines below a directory, child by child. -/
theorem treeRows_eq (indent d : String) :
    treeRows store hidden indent d = (shown store hidden d).flatMap fun c =>
      ⟨indent ++ (if isLast store hidden c.path then "└── " else "├── ") ++ displayName c,
        c.isDirectory⟩ ::
      if c.isDirectory then treeRows store hidden (indent ++ column store hidden c.path) c.path
      else [] := by
  let rows : List { c // c ∈ store.children d } :=
    (store.children d).attach.filter fun c => hidden || !Text.startsWith c.1.name "."
  have hrows : rows.map Subtype.val = shown store hidden d := calc
    rows.map Subtype.val
    _ = ((store.children d).attach.map Subtype.val).filter
          fun c => hidden || !Text.startsWith c.name "." := by rw [List.filter_map]; rfl
    _ = shown store hidden d := by rw [List.attach_map_subtype_val, shown]
  have hnodup : (rows.map (·.1.path)).Nodup := by
    have hpaths : ((shown store hidden d).map (·.path)).Nodup := nodup_path_shown h d
    rwa [← hrows, List.map_map] at hpaths
  have hlast : ∀ c i, (c, i) ∈ rows.zipIdx →
      (i + 1 == rows.length) = isLast store hidden c.1.path := by
    intro c i hc
    have hd := Store.mem_directories_of_mem_children c.2
    have hparent : Path.parent c.1.path = d := ((h.mem_children_iff hd).1 ⟨c.1, c.2, rfl⟩).2.1
    rw [succ_beq_length hnodup hc, isLast, hparent, ← hrows, List.getLast?_map, Option.any_map]
  rw [treeRows, ← hrows, List.flatMap_map]
  conv_rhs => rw [← List.zipIdx_map_fst 0 rows, List.flatMap_map]
  refine List.flatMap_congr fun ⟨c, i⟩ hc => ?_
  have hi := hlast c i hc
  simp only [rows] at hi
  simp only [hi, column, dite_eq_ite]

/-- **The lines of a tree are the lines of its outline,** each found from its path alone. -/
theorem treeRows_eq_map (hr : Path.IsCanonical r) (hd : d ∈ store.directories)
    (hin : Path.isWithin d r = true) :
    treeRows store hidden (indentation store hidden r d) d =
      (outline store hidden d).map (row store hidden r) := by
  induction d using outline.induct store hidden with
  | case1 d ih =>
    have hdir := h.canonical d (.inr hd)
    rw [treeRows_eq h, outline_eq, List.map_flatMap]
    refine List.flatMap_congr fun c hc => ?_
    obtain ⟨hn, hpath, -, -⟩ := mem_shown h hc
    have hrow : row store hidden r c.found =
        ⟨indentation store hidden r d ++ (if isLast store hidden c.path then "└── " else "├── ") ++
          displayName c, c.isDirectory⟩ := by
      have hparent : Path.parent c.path = d := by rw [hpath, Path.parent_child hdir hn]
      have hname := Store.name_of_mem_children (List.mem_of_mem_filter hc)
      rw [displayName_eq, hname, ← hparent]
      rfl
    rw [branch, List.map_cons, hrow]
    cases hfolder : c.isDirectory with
    | false => rfl
    | true =>
      have hmem := mem_directories_of_mem_shown hc hfolder
      have hbelow : Path.isBelow c.path r = true := by rwa [hpath, Path.isBelow_child hdir hn hr]
      rw [if_pos rfl, if_pos rfl, ← ih c hc hfolder hmem (Path.isWithin_of_isBelow hbelow), hpath,
        indentation_child hr hdir hn hin]

end WellFormed

/-! ## The commands -/

/-- The text of a drawing: what was asked for, the lines, and after an empty line the counts. -/
def drawing (title : String) (lines : List String) (directories files : Nat) : String :=
  Text.joinLines (title :: lines ++
    ["", toString directories ++ " directories, " ++ toString files ++ " files"])

variable {session : Session}

/-- **What `tree` draws** of the directory that its operand denotes. -/
theorem tree_eq (h : session.store.WellFormed) (s : Surroundings) {args : List String}
    {target : String} (hhidden : args.contains "-a" = hidden)
    (htarget : (args.filter (· ≠ "-a")).head?.getD "." = target)
    (hresolve : session.resolve s.settings target = r) (hr : r ∈ session.store.directories) :
    tree s session args = .ok (.ok (drawing target
      ((outline session.store hidden r).map (rowText session.store hidden r))
      ((session.store.directoriesBelow r).filter (shows hidden r)).length
      ((session.store.filesBelow r).filter (shows hidden r)).length)) := by
  have hcanonical := h.canonical r (.inr hr)
  have hrows : treeRows session.store hidden "" r =
      (outline session.store hidden r).map (row session.store hidden r) := by
    rw [← treeRows_eq_map h hcanonical hr (Path.isWithin_self r), indentation_self hcanonical]
  have hdirectories : ((treeRows session.store hidden "" r).filter (·.isDirectory)).length =
      ((session.store.directoriesBelow r).filter (shows hidden r)).length := by
    rw [hrows, List.filter_map, List.length_map, ← length_directories_outline h hr]
    rfl
  have hfiles : ((treeRows session.store hidden "" r).filter (!·.isDirectory)).length =
      ((session.store.filesBelow r).filter (shows hidden r)).length := by
    rw [hrows, List.filter_map, List.length_map, ← length_files_outline h hr]
    rfl
  have htext : (treeRows session.store hidden "" r).map (·.text) =
      (outline session.store hidden r).map (rowText session.store hidden r) := by
    rw [hrows, List.map_map]
    rfl
  simp only [tree, htarget, hresolve, hhidden, Store.isDirectory_iff.2 hr, hdirectories, hfiles,
    htext, drawing, Bool.not_true, Bool.false_eq_true, if_false]

/-- The paths that `find` shows if it is asked for directories, or for files. -/
def findable (store : Store) (directories : Bool) : List String :=
  Text.sort (if directories then store.cwd :: store.directoriesBelow store.cwd
    else store.filesBelow store.cwd)

theorem mem_of_mem_findable (h : store.WellFormed) {directories : Bool}
    (hp : p ∈ findable store directories) :
    (p ∈ store.files.keys ∨ p ∈ store.directories) ∧ Path.isWithin p store.cwd = true := by
  have hbelow : ∀ {paths : List String}, p ∈ paths.filter (Path.isBelow · store.cwd) →
      p ∈ paths ∧ Path.isWithin p store.cwd = true := fun hmem =>
    (List.mem_filter.1 hmem).imp id Path.isWithin_of_isBelow
  cases directories with
  | true =>
    rw [findable, Text.mem_sort, if_pos rfl, List.mem_cons] at hp
    rcases hp with rfl | hp
    · exact ⟨.inr h.cwd_mem, Path.isWithin_self _⟩
    · exact (hbelow hp).imp .inr id
  | false =>
    rw [findable, Text.mem_sort, if_neg (by simp)] at hp
    exact (hbelow hp).imp .inl id

/-- **What `find` shows of one kind,** in the order of the paths. -/
theorem find_eq (h : session.store.WellFormed) (s : Surroundings) {args : List String}
    {directories : Bool}
    (hargs : pathSearch ⟨none, none, none⟩ args = .ok ⟨none, none, some directories⟩) :
    find s session args = .ok (.ok (Text.joinLines (findable session.store directories))) := by
  obtain ⟨walked, hwalk, hperm⟩ := h.walk_perm h.cwd_mem
  let search : PathSearch := ⟨none, none, some directories⟩
  have hfound : (walked.filter search.admits).map (·.1) = findable session.store directories := by
    refine List.Perm.eq_of_pairwise (fun _ _ _ _ => String.le_antisymm)
      (List.pairwise_map.2 ((Store.pairwise_walk hwalk).filter _)) (Text.pairwise_sort _) ?_
    refine ((hperm.filter _).map _).trans (.trans (.of_eq ?_) (Text.sort_perm _).symm)
    cases directories <;> simp [search, PathSearch.admits, List.filter_map, Function.comp_def]
  rw [← hfound, find, hargs]
  simp only [bind, Except.bind, hwalk]
  rfl

/-- If no path has a break, `find` shows each on one line. -/
theorem lines_find (h : session.store.WellFormed) (s : Surroundings) (args : List String)
    (directories : Bool)
    (hargs : pathSearch ⟨none, none, none⟩ args = .ok ⟨none, none, some directories⟩)
    (hbreaks : ∀ p, p ∈ session.store.files.keys ∨ p ∈ session.store.directories →
      Path.isWithin p session.store.cwd = true → ∀ c ∈ p.toList, Text.isLineBreak c = false) :
    ∃ out, find s session args = .ok (.ok out) ∧
      Text.lines out = findable session.store directories := by
  refine ⟨_, find_eq h s hargs, Text.lines_joinLines (fun p hp hempty => ?_) fun p hp => ?_⟩
  · obtain ⟨rest, hrest⟩ :=
      Path.exists_toList_eq_cons (h.canonical p (mem_of_mem_findable h hp).1)
    rw [hempty] at hrest
    cases hrest
  · obtain ⟨hmem, hin⟩ := mem_of_mem_findable h hp
    exact hbreaks p hmem hin

/-- A session on a directory with a hidden directory and a hidden file, next to one whose path
begins like its. -/
def dotted : Session where
  store := {
    directories := ["/", "/a", "/a/.git", "/a/src", "/ab"]
    files := Table.ofList [("/a/.git/x", ⟨"1", none, none⟩), ("/a/src/y", ⟨"2", none, none⟩),
      ("/a/.env", ⟨"3", none, none⟩), ("/ab/z", ⟨"4", none, none⟩)]
    cwd := "/ab"
    revision := 0 }
  environment := .empty
  aliases := .empty
  history := ⟨[], 100, 100⟩

/-- What a command finds around it that reads nothing of it. -/
def bare : Surroundings := ⟨.default, "tree", .empty, ⟨2024, 1, 2⟩⟩

end Builtin
end EditorShell

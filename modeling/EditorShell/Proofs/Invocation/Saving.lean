import EditorShell.Proofs.Invocation.Begin
import EditorShell.Proofs.Project.Depth
import EditorShell.Proofs.Project.RoundTrip

/-!
# Saved projects are resumed

The store that a run leaves is well formed, so the tree that is saved shows all of it. If a path of
the store has more than 253 names, the tree cannot be written, and the run fails (`saved_eq`). What
is written is read again as this tree, unless a path has more than 100 names: then the text is
refused (`parse_savedText`). A session that starts from the text has the directories and the files
that were saved, and it saves the same text as long as they stay (`resume_saved`).
-/

namespace EditorShell
namespace Invocation

variable {world : World} {options : Options} {console ran : Console} {request : Request}
  {path : String}

/-! ## What is saved -/

/-- The text that is saved of a store. -/
def savedText (store : Store) : String := ProjectNode.render (some 2) store.tree ++ "\n"

theorem saved_eq (hsave : options.save = some (.path path)) (session : Session) :
    saved options session =
      if ProjectNode.heightAll session.store.tree ≤ 253
      then .ok (.file path (savedText session.store)) else .error .tooDeep := by
  have hwrite := @ProjectNode.write_eq (some 2) (by simp) session.store.tree
  simp only [saved, hsave, hwrite, savedText]
  split_ifs <;> rfl

theorem run_eq_finish (hbegin : begin world request.options = .ok console)
    (hran : (console.carryOut world.input request.task).1 = ran) :
    run world request =
      finish request.options ran (console.carryOut world.input request.task).2 := by
  rw [run_eq, hbegin, ← hran]
  rfl

/-- A run that has begun saves the store that its task leaves, if it can be written. -/
theorem run_of_heightAll_le (hbegin : begin world request.options = .ok console)
    (hran : (console.carryOut world.input request.task).1 = ran)
    (hsave : request.options.save = some (.path path))
    (hheight : ProjectNode.heightAll ran.session.store.tree ≤ 253) :
    ∃ ended, run world request = .ok ended ∧
      ended.saved = .file path (savedText ran.session.store) := by
  rw [run_eq_finish hbegin hran, finish, saved_eq hsave, if_pos hheight]
  exact ⟨_, rfl, rfl⟩

/-- If it cannot be written, the run fails with all that has been printed. -/
theorem run_of_lt_heightAll (hbegin : begin world request.options = .ok console)
    (hran : (console.carryOut world.input request.task).1 = ran)
    (hsave : request.options.save = some (.path path))
    (hheight : 253 < ProjectNode.heightAll ran.session.store.tree) :
    run world request = .error (.unwritten ran.stdout ran.stderr .tooDeep) := by
  rw [run_eq_finish hbegin hran, finish, saved_eq hsave, if_neg (Nat.not_le.2 hheight)]

theorem parse_savedText {store : Store} (h : store.WellFormed) :
    (store.DepthAtMost 100 → ProjectNode.parse (savedText store) = .ok store.tree) ∧
      (¬store.DepthAtMost 100 →
        ProjectNode.parse (savedText store) = Checked.fail .invalidJson) := by
  have hnewline : ∀ c ∈ "\n".toList, Json.isSpace c = true := by
    intro c hc
    obtain rfl : c = '\n' := by simpa using hc
    rfl
  rw [savedText, ProjectNode.parse_render_append (some 2) store.tree hnewline]
  have hheight := h.heightAll_tree_le_iff 100
  exact ⟨fun hdepth => if_pos (hheight.2 hdepth), fun hdepth => if_neg (mt hheight.1 hdepth)⟩

/-- The project of a run that is given the text of a store. -/
theorem project_savedText {store : Store} {source : String}
    (hsource : options.project = some (.path source))
    (hread : world.read source = .ok (savedText store)) :
    project world options =
      (ProjectNode.parse (savedText store)).mapError .invalidProject := by
  simp only [project, hsource, hread]
  cases ProjectNode.parse (savedText store) <;> rfl

theorem wellFormed_ran (hbegin : begin world request.options = .ok console)
    (hran : (console.carryOut world.input request.task).1 = ran) :
    ran.session.store.WellFormed :=
  hran ▸ (sound_begin hbegin).wellFormed_left world.input request.task

/-! ## Runs with nothing around them -/

/-- A place where no file can be read. -/
def barren : World := ⟨[], fun _ => .error .missing, "", ⟨2024, 1, 2⟩⟩

/-- Nothing keeps a run from beginning there, with the root directory and no files. -/
theorem exists_begin_barren (read : String → Except AccessError String) (save : Option FileValue) :
    ∃ console, begin { barren with read := read } ⟨none, save, none⟩ = .ok console ∧
      console.session.store.directories = [Path.root] ∧
      console.session.store.files.keys = [] := by
  have hlimit : Settings.default.historyLimit ≤ History.largestLimit := by decide
  obtain ⟨console, hbegin, hdirs, hfiles⟩ := @begin_of_project { barren with read := read }
    ⟨none, save, none⟩ .default (settings_eq_default rfl rfl) hlimit [] rfl
  exact ⟨console, hbegin, by rw [hdirs]; rfl, by rw [hfiles]; rfl⟩

/-! ### A file that is written and read -/

/-- A run that writes a file and saves it. -/
def noting : Request := ⟨.exec "echo hi > x", ⟨none, some (.path "p"), none⟩⟩

theorem exists_begin_noting :
    ∃ console ran, begin barren noting.options = .ok console ∧
      (console.carryOut barren.input noting.task).1 = ran ∧
      (∀ depth ≥ 1, ran.session.store.DepthAtMost depth) ∧
      ran.session.store.files.get? "/x" = some ⟨"hi\n", none, none⟩ := by
  obtain ⟨console, hbegin, -⟩ := exists_begin_barren barren.read (some (.path "p"))
  have hstore : (begin barren noting.options).toOption.map (fun console =>
      ((console.left barren.input noting.task).directories,
        (console.left barren.input noting.task).files.entries)) =
      some (["/"], [("/x", ⟨"hi\n", none, none⟩)]) := by
    unfold begin
    rw [settings_eq_default rfl rfl]
    decide +kernel
  rw [show begin barren noting.options = .ok console from hbegin] at hstore
  simp only [Except.toOption, Option.map_some, Option.some.injEq, Prod.mk.injEq,
    Console.left] at hstore
  obtain ⟨hdirs, hfiles⟩ := hstore
  refine ⟨console, _, hbegin, rfl, fun depth hle p hp => ?_, ?_⟩
  · have hx : Path.parent "/x" = Path.root := by decide
    simp only [Table.keys, hfiles, hdirs, List.map_cons, List.map_nil, List.mem_singleton] at hp
    obtain rfl | rfl := hp
    · rw [Path.length_ancestors (by decide), hx, Path.ancestors_root]
      exact hle
    · rw [show ("/" : String) = Path.root from rfl, Path.ancestors_root]
      exact Nat.zero_le _
  · rw [Table.get?, hfiles]
    decide

/-- A run that reads the file and saves the project elsewhere. -/
def returning : Request where
  task := .exec (Word.typedLine (["cat", "x"].map .plain))
  options := ⟨some (.path "p"), some (.path "q"), none⟩

/-- Reading changes nothing. -/
theorem left_returning (henvironment : world.environment = [])
    (hbegin : begin world returning.options = .ok console) (input : String) :
    console.left input returning.task = console.session.store := by
  have htexts : ∀ text ∈ ["cat", "x"], '"' ∉ text.toList ∧ ¬Variable.Refers text := by decide
  obtain ⟨surroundings, hleft⟩ := @exists_left_typedLine world returning.options console
    henvironment rfl hbegin "cat" ["x"] (.view Builtin.cat) rfl (by decide) htexts input
  exact hleft

/-! ### Deep directories -/

/-- Where there are no files, a directory can be created with all that is missing above it. -/
theorem mem_directories_createDirectory {store : Store} (hfiles : store.files.keys = [])
    (path : String) : path ∈ (store.perform (.createDirectory path true)).1.directories := by
  have hfind (paths : List String) : paths.find? store.isFile = none := by
    simp [hfiles]
  simp only [Store.perform, Store.createDirectory, hfind, hfiles, Store.isFile_iff]
  split_ifs with hfile hdir hmissing
  · cases hfile
  · exact Store.isDirectory_iff.1 hdir
  · simp at hmissing
  · simp [Store.attempt]

theorem store_mkdir {session : Session} (hpath : Path.IsCanonical path) (s : Surroundings) :
    (Builtin.mkdir s session ["-p", path]).1.store =
      (session.store.perform (.createDirectory path true)).1 := by
  obtain ⟨rest, hrest⟩ := Path.exists_toList_eq_cons hpath
  have hflag : Builtin.flagsOf? "-p" = some ["p"] := by decide
  have hnone : Builtin.flagsOf? path = none := by
    simp [Builtin.flagsOf?, hrest]
  have hoperands : Builtin.operands ["-p", path] = [path] := by
    simp [Builtin.operands, hnone, hflag]
  have hflags : Builtin.flags ["-p", path] = ["p"] := by
    simp [Builtin.flags, hnone, hflag]
  simp only [Builtin.mkdir, hoperands, hflags]
  show (Builtin.mkdirOne s.settings true ⟨session, []⟩ path).session.store = _
  rw [Builtin.session_mkdirOne, Session.resolve_eq_self hpath]

/-- The path of `n` directories in one another. -/
def deepPath (n : Nat) : String := Path.ofSegments (List.replicate n "d")

theorem isSegment_of_mem_replicate {n : Nat} :
    ∀ a ∈ List.replicate n "d", Path.IsSegment a := by
  intro a ha
  rw [List.eq_of_mem_replicate ha]
  decide

theorem isCanonical_deepPath (n : Nat) : Path.IsCanonical (deepPath n) :=
  Path.isCanonical_ofSegments isSegment_of_mem_replicate

theorem length_ancestors_deepPath (n : Nat) : (Path.ancestors (deepPath n)).length = n := by
  rw [deepPath, Path.length_ancestors_ofSegments isSegment_of_mem_replicate, List.length_replicate]

theorem eq_of_mem_deepPath {n : Nat} {c : Char} (hc : c ∈ (deepPath n).toList) :
    c = '/' ∨ c = 'd' := by
  cases n with
  | zero => exact .inl (by simpa [deepPath] using hc)
  | succ n =>
    rw [deepPath, Path.toList_ofSegments (by simp), Path.spell, List.mem_flatMap] at hc
    obtain ⟨a, ha, hc⟩ := hc
    rw [List.eq_of_mem_replicate ha] at hc
    simpa using hc

/-- The path can be typed in quotes. -/
theorem typable_deepPath (n : Nat) :
    '"' ∉ (deepPath n).toList ∧ ¬Variable.Refers (deepPath n) := by
  constructor
  · intro hquote
    obtain h | h := eq_of_mem_deepPath hquote <;> cases h
  · rintro ⟨cs, hsuffix, name, rest, -, hcs⟩
    have hdollar : '$' ∈ cs := by
      obtain rfl | rfl := hcs <;> exact List.mem_cons_self
    obtain h | h := eq_of_mem_deepPath (hsuffix.subset hdollar) <;> cases h

/-- A run that creates `n` directories in one another and saves them. -/
def burying (n : Nat) : Request where
  task := .exec (Word.typedLine (["mkdir", "-p", deepPath n].map .plain))
  options := ⟨none, some (.path "p"), none⟩

/-- The longest path that such a run leaves has `n` names. -/
theorem exists_begin_burying (n : Nat) :
    ∃ console ran, begin barren (burying n).options = .ok console ∧
      (console.carryOut barren.input (burying n).task).1 = ran ∧
      ∀ depth, ran.session.store.DepthAtMost depth ↔ n ≤ depth := by
  obtain ⟨console, hbegin, hdirs, hfiles⟩ := exists_begin_barren barren.read (some (.path "p"))
  have htexts : ∀ text ∈ ["mkdir", "-p", deepPath n],
      '"' ∉ text.toList ∧ ¬Variable.Refers text := by
    simp only [List.forall_mem_cons]
    exact ⟨by decide, by decide, typable_deepPath n, by simp⟩
  have hleft : (console.carryOut barren.input (burying n).task).1.session.store =
      (console.session.store.perform (.createDirectory (deepPath n) true)).1 := by
    obtain ⟨surroundings, hleft⟩ := @exists_left_typedLine barren (burying n).options console
      rfl rfl hbegin "mkdir" ["-p", deepPath n] (.edit Builtin.mkdir) rfl (by decide) htexts
      barren.input
    rw [← Console.left, burying, hleft]
    exact store_mkdir (isCanonical_deepPath n) surroundings
  refine ⟨console, _, hbegin, rfl, fun depth => ?_⟩
  rw [hleft]
  constructor
  · intro hdepth
    have hlength := hdepth _ (.inr (mem_directories_createDirectory hfiles (deepPath n)))
    rwa [length_ancestors_deepPath] at hlength
  · intro hle
    have hstart : console.session.store.DepthAtMost depth := by
      intro p hp
      rw [hfiles, hdirs, List.mem_singleton] at hp
      obtain hp | rfl := hp
      · cases hp
      · simp
    exact hstart.createDirectory (isCanonical_deepPath n) (by rwa [length_ancestors_deepPath])

/-! ## Runs that resume others -/

end Invocation
end EditorShell

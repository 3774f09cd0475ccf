import EditorShell.Invocation
import EditorShell.Proofs.Shell.Quoting

/-!
# How runs begin and what they carry out

A run begins if its settings can be loaded, its project can be read and its history can be kept
(`begin_eq_ok`, `begin_of_project`). It then carries out its task, a line or several, and whatever
the lines do and whether they fail, the store that they leave is well formed (`wellFormed_left`).
-/

namespace EditorShell

namespace Session

variable {settings : Settings} {tree : List ProjectNode} {session : Session}

/-- A session starts if its history can be kept, with the directories and the files of the tree. -/
theorem start_eq_ok (h : Session.start settings tree = .ok session) :
    settings.historyLimit ≤ History.largestLimit ∧ session.aliases = defaultAliases ∧
      session.store.directories = (Store.ofTree tree).directories ∧
      session.store.files = (Store.ofTree tree).files := by
  simp only [Session.start, ofSettings] at h
  split at h
  · cases h
  next hlimit =>
    cases h
    refine ⟨by omega, rfl, ?_, ?_⟩ <;>
      · simp only [tellCwd]
        split <;> rfl

theorem exists_start (h : settings.historyLimit ≤ History.largestLimit) (tree : List ProjectNode) :
    ∃ session, Session.start settings tree = .ok session := by
  simp only [Session.start, ofSettings, if_neg (Nat.not_lt.2 h)]
  exact ⟨_, rfl⟩

end Session

namespace Invocation

variable {world : World} {options : Options} {console : Console}

/-! ## What a run carries out -/

/-- Carries out a task, with the code that it ends with. -/
def Console.carryOut (console : Console) (input : String) : Task → Console × Int
  | .exec line => console.run line
  | .shell => (console.interact (inputLines input), 0)

/-- The store that a task leaves. -/
def Console.left (console : Console) (input : String) (task : Task) : Store :=
  (console.carryOut input task).1.session.store

theorem run_eq (world : World) (request : Request) :
    run world request = (begin world request.options).bind fun console =>
      finish request.options (console.carryOut world.input request.task).1
        (console.carryOut world.input request.task).2 := by
  obtain ⟨line | _, options⟩ := request <;> simp only [run, Console.carryOut]

/-- A line leaves the commands as they are, and of the store what it leads to. -/
theorem Console.run_eq (console : Console) (line : String) :
    (console.run line).1.shell.catalog = console.shell.catalog ∧
      (console.run line).1.session.store =
        if Text.strip line = "" then console.session.store
        else (console.shell.attend console.session
          (Shell.read console.session (Text.strip line))).session.store := by
  simp only [Console.run]
  split_ifs
  · exact ⟨rfl, rfl⟩
  · obtain ⟨recorded, hshell, hstore, -⟩ := Shell.session_perform console.shell console.session
      (Text.strip line) (Shell.read console.session (Text.strip line))
    simp only [hshell, Option.getD_some, hstore, and_self]

/-- A line of texts in quotes leaves the store that its command leaves. -/
theorem Console.left_typedLine {name : String} {args : List String} {command : Command}
    (hcommand : console.shell.catalog.get? name = some command)
    (halias : name ∉ console.session.aliases.keys)
    (htexts : ∀ text ∈ name :: args, '"' ∉ text.toList ∧ ¬Variable.Refers text) (input : String) :
    console.left input (.exec (Word.typedLine ((name :: args).map .plain))) =
      (command.handler.run ⟨console.shell.settings, name, console.shell.infos, console.shell.today⟩
        console.session args).1.store := by
  obtain ⟨ran, outcome, hrun⟩ : ∃ ran outcome, command.handler.run
      ⟨console.shell.settings, name, console.shell.infos, console.shell.today⟩ console.session args =
        (ran, outcome) := ⟨_, _, rfl⟩
  have hread : Shell.read console.session (Word.typedLine ((name :: args).map .plain)) =
      .ok ⟨some name, args, none⟩ := CommandLine.parse_typedLine halias htexts
  have hstrip := Word.strip_typedLine name args
  have hne := Shell.strip_ne_empty_of_read (hstrip.symm ▸ hread)
  simp only [left, carryOut]
  rw [(console.run_eq _).2, if_neg hne, hstrip, hread, Shell.attend_of_run hcommand hrun, hrun]

/-- The commands keep to operations on canonical paths, and the store is well formed. -/
structure Console.Sound (console : Console) : Prop where
  catalog : ∀ entry ∈ console.shell.catalog.entries, entry.2.handler.EditsStore
  store : console.session.store.WellFormed

namespace Console.Sound

theorem run (h : console.Sound) (line : String) : (console.run line).1.Sound := by
  obtain ⟨hcatalog, hstore⟩ := console.run_eq line
  constructor
  · rw [hcatalog]
    exact h.catalog
  · rw [hstore]
    split_ifs
    · exact h.store
    · exact (Shell.edits_attend h.catalog console.session _).wellFormed h.store

theorem interact (h : console.Sound) (lines : List String) : (console.interact lines).Sound := by
  have hask {console : Console} (h : console.Sound) : console.ask.Sound := ⟨h.catalog, h.store⟩
  induction lines generalizing console with
  | nil => exact hask h
  | cons line lines ih =>
    unfold Console.interact
    split
    · exact hask h
    · exact ih ((hask h).run line)

/-- **A task leaves a well-formed store,** whatever its lines do and whether they fail or not. -/
theorem wellFormed_left (h : console.Sound) (input : String) (task : Task) :
    (console.left input task).WellFormed := by
  cases task with
  | exec line =>
    simp only [Console.left, Console.carryOut]
    exact (h.run line).store
  | shell =>
    simp only [Console.left, Console.carryOut]
    exact (h.interact (inputLines input)).store

end Console.Sound

/-! ## How a run begins -/

theorem exists_of_bind_eq_ok {ε α β : Type} {first : Except ε α} {rest : α → Except ε β} {b : β}
    (h : first >>= rest = .ok b) : ∃ a, first = .ok a ∧ rest a = .ok b := by
  cases first with
  | error error => cases h
  | ok a => exact ⟨a, rfl, h⟩

theorem begin_eq_ok (h : begin world options = .ok console) :
    ∃ chosen tree, settings world options = .ok chosen ∧ project world options = .ok tree ∧
      Session.start chosen tree = .ok console.session ∧
      console.shell.catalog = (Shell.create chosen [] world.today).catalog := by
  unfold begin at h
  obtain ⟨chosen, hsettings, h⟩ := exists_of_bind_eq_ok h
  obtain ⟨tree, hproject, h⟩ := exists_of_bind_eq_ok h
  obtain ⟨session, hstart, h⟩ := exists_of_bind_eq_ok h
  refine ⟨chosen, tree, hsettings, hproject, ?_⟩
  cases hfresh : Session.start chosen tree with
  | error error =>
    rw [hfresh] at hstart
    cases hstart
  | ok fresh =>
    rw [hfresh] at hstart
    cases hstart
    cases h
    exact ⟨rfl, rfl⟩

theorem sound_begin (h : begin world options = .ok console) : console.Sound := by
  obtain ⟨chosen, tree, -, -, hstart, hcatalog⟩ := begin_eq_ok h
  refine ⟨?_, Session.wellFormed_start hstart⟩
  rw [hcatalog]
  exact (Shell.Sound.create chosen [] world.today).catalog

/-- What a run needs to begin apart from a project. -/
theorem begin_without_project {fresh : Console}
    (h : begin world { options with project := none } = .ok fresh) :
    ∃ chosen, settings world options = .ok chosen ∧
      chosen.historyLimit ≤ History.largestLimit := by
  obtain ⟨chosen, _, hsettings, -, hstart, -⟩ := begin_eq_ok h
  exact ⟨chosen, hsettings, (Session.start_eq_ok hstart).1⟩

theorem begin_of_project {chosen : Settings} (hsettings : settings world options = .ok chosen)
    (hlimit : chosen.historyLimit ≤ History.largestLimit) {tree : List ProjectNode}
    (hproject : project world options = .ok tree) :
    ∃ console, begin world options = .ok console ∧
      console.session.store.directories = (Store.ofTree tree).directories ∧
      console.session.store.files = (Store.ofTree tree).files := by
  obtain ⟨session, hstart⟩ := Session.exists_start hlimit tree
  unfold begin
  rw [hsettings, hproject]
  simp only [Bind.bind, Except.bind, hstart, Except.mapError, pure, Except.pure]
  exact ⟨_, rfl, (Session.start_eq_ok hstart).2.2⟩

theorem begin_of_project_error {chosen : Settings} {fatal : Fatal}
    (hsettings : settings world options = .ok chosen)
    (hproject : project world options = .error fatal) : begin world options = .error fatal := by
  unfold begin
  rw [hsettings, hproject]
  rfl

/-- Without variables and options the settings are those of a host that makes no choice. -/
theorem settings_eq_default (henvironment : world.environment = [])
    (hlevel : options.logLevel = none) : settings world options = .ok .default := by
  have hdefault : settings ⟨[], fun _ => .error .missing, "", ⟨2024, 1, 2⟩⟩ ⟨none, none, none⟩ =
      .ok .default := by
    decide +kernel
  unfold settings at hdefault ⊢
  rw [henvironment, hlevel]
  exact hdefault

/-- Under the default settings a line of texts in quotes leaves the store that the built-in command
leaves. -/
theorem exists_left_typedLine (henvironment : world.environment = [])
    (hlevel : options.logLevel = none) (hbegin : begin world options = .ok console) {name : String}
    {args : List String} {handler : Handler}
    (hoffered : ((Shell.create .default [] world.today).catalog.get? name).map (·.handler) =
      some handler)
    (halias : name ∉ Session.defaultAliases.keys)
    (htexts : ∀ text ∈ name :: args, '"' ∉ text.toList ∧ ¬Variable.Refers text) (input : String) :
    ∃ surroundings,
      console.left input (.exec (Word.typedLine ((name :: args).map .plain))) =
        (handler.run surroundings console.session args).1.store := by
  obtain ⟨chosen, tree, hsettings, -, hstart, hcatalog⟩ := begin_eq_ok hbegin
  rw [settings_eq_default henvironment hlevel] at hsettings
  cases hsettings
  rw [← hcatalog] at hoffered
  obtain ⟨command, hcommand, rfl⟩ := Option.map_eq_some_iff.1 hoffered
  exact ⟨_, Console.left_typedLine hcommand ((Session.start_eq_ok hstart).2.1 ▸ halias) htexts input⟩

end Invocation
end EditorShell

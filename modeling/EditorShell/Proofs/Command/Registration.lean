import EditorShell.Command.Registration
import Mathlib.Data.List.Basic

/-!
# What a refused call leaves behind

A call enters the command under one name after the other and stops at the first that is in use, be
it by an earlier call or by the call itself (`Enters`). What it has entered by then stays. So a call
that is refused leaves the catalog as it was exactly if the name of the command itself is in use
(`register_eq_self_iff`), and what is listed are the names of the calls that succeeded together with
those that refused calls have entered before they stopped (`list_registerAll`).
-/

namespace EditorShell

/-! ## The commands that a call asks to enter -/

/-- A text in place of itself changes nothing. -/
theorem Text.replaceFirst_self (old s : String) : Text.replaceFirst old old s = s := by
  have hchars (cs : List Char) : Text.replaceFirstIn old.toList old.toList cs = cs := by
    induction cs with
    | nil =>
      rw [Text.replaceFirstIn]
      split
      next hempty => exact List.isEmpty_iff.1 hempty
      · rfl
    | cons c cs ih =>
      rw [Text.replaceFirstIn, ih]
      split
      next hbegins =>
        obtain ⟨rest, hrest⟩ := List.isPrefixOf_iff_prefix.1 hbegins
        rw [← hrest, List.drop_left]
      · rfl
  rw [Text.replaceFirst, hchars, String.ofList_toList]

namespace Command

/-- The command as it is listed: without a usage it is used by its name alone. -/
def completed (command : Command) : Command :=
  { command with info := { command.info with
      usage := if command.info.usage = "" then command.info.name else command.info.usage } }

end Command

namespace Registration

/-- The commands that the call asks to enter, in order. -/
def requests (call : Registration) : List Command :=
  call.command :: call.aliases.map (Catalog.renamed call.command)

end Registration

namespace Catalog

variable {catalog : Catalog} {names : List String} {requests entered : List Command}
  {call : Registration} {answer : Option NameInUse} {error : NameInUse}

/-- Under its own name a command is entered as it is. -/
theorem renamed_name (command : Command) : renamed command command.info.name = command := by
  rw [renamed, Text.replaceFirst_self]

theorem enter_of_mem {command : Command} (h : command.info.name ∈ catalog.keys) :
    catalog.enter command = .error ⟨command.info.name⟩ := by
  rw [enter, if_pos (Table.contains_iff.2 h)]

theorem enter_of_not_mem {command : Command} (h : command.info.name ∉ catalog.keys) :
    catalog.enter command = .ok (catalog.set command.info.name command.completed) := by
  rw [enter, if_neg (mt Table.contains_iff.1 h)]
  rfl

/-- A call asks for its requests one after the other. -/
theorem register_eq (catalog : Catalog) (call : Registration) :
    catalog.register call = catalog.enterAll call.requests := by
  cases call with
  | plain command =>
    have hone : (Registration.plain command).requests = [command] := rfl
    rw [register, hone, enterAll]
    cases catalog.enter command <;> rfl
  | aliased command aliases =>
    rw [register, enterWithAliases, List.map_cons, renamed_name]
    rfl

/-! ## How far a call gets -/

/-- While `names` are in use, `entered` are entered of the requests before the answer is given. -/
structure Enters (names : List String) (requests entered : List Command)
    (answer : Option NameInUse) : Prop where
  fresh : ∀ c ∈ entered, c.info.name ∉ names
  distinct : (entered.map (·.info.name)).Nodup
  whole : answer = none → entered = requests
  /-- A refusal names the first request that is not entered, whose name is in use by then. -/
  stopped : ∀ error, answer = some error → ∃ command later,
    requests = entered ++ command :: later ∧ error.name = command.info.name ∧
      error.name ∈ names ++ entered.map (·.info.name)

/-- The entries that commands become. -/
def entriesOf (commands : List Command) : List (String × Command) :=
  commands.map fun c => (c.info.name, c.completed)

theorem Enters.cons {command : Command} (hmem : command.info.name ∉ names)
    (h : Enters (names ++ [command.info.name]) requests entered answer) :
    Enters names (command :: requests) (command :: entered) answer where
  fresh := by
    refine List.forall_mem_cons.2 ⟨hmem, fun c hc hin => ?_⟩
    exact h.fresh c hc (List.mem_append_left _ hin)
  distinct := by
    refine List.nodup_cons.2 ⟨fun hin => ?_, h.distinct⟩
    obtain ⟨c, hc, hname⟩ := List.mem_map.1 hin
    exact h.fresh c hc (by simp [hname])
  whole hnone := by rw [h.whole hnone]
  stopped error herror := by
    obtain ⟨taken, later, hsplit, hname, hin⟩ := h.stopped error herror
    exact ⟨taken, later, by rw [hsplit, List.cons_append], hname, by simpa using hin⟩

/-- **Requests are entered up to the first whose name is in use,** and what is entered stays. -/
theorem exists_enters (catalog : Catalog) (requests : List Command) :
    ∃ entered, Enters catalog.keys requests entered (catalog.enterAll requests).2 ∧
      (catalog.enterAll requests).1.entries = catalog.entries ++ entriesOf entered := by
  induction requests generalizing catalog with
  | nil =>
    refine ⟨[], ⟨by simp, by simp, fun _ => rfl, fun error herror => ?_⟩, (List.append_nil _).symm⟩
    cases herror
  | cons command requests ih =>
    by_cases hmem : command.info.name ∈ catalog.keys
    · rw [enterAll, enter_of_mem hmem]
      refine ⟨[], ⟨by simp, by simp, nofun, fun error herror => ?_⟩, (List.append_nil _).symm⟩
      cases herror
      exact ⟨command, requests, rfl, rfl, by simpa using hmem⟩
    · have hkeys : (catalog.set command.info.name command.completed).keys =
          catalog.keys ++ [command.info.name] := by rw [Table.keys_set, if_neg hmem]
      have hentries : (catalog.set command.info.name command.completed).entries =
          catalog.entries ++ [(command.info.name, command.completed)] :=
        Table.setIn_of_notMem hmem _
      obtain ⟨entered, henters, hrest⟩ := ih (catalog.set command.info.name command.completed)
      rw [enterAll, enter_of_not_mem hmem]
      refine ⟨command :: entered, .cons hmem (hkeys ▸ henters), ?_⟩
      rw [hrest, hentries, List.append_assoc]
      rfl

/-- The first request is entered unless its name is in use. -/
theorem Enters.eq_nil_iff {command : Command}
    (h : Enters names (command :: requests) entered answer) :
    entered = [] ↔ command.info.name ∈ names := by
  cases entered with
  | nil =>
    cases answer with
    | none => cases h.whole rfl
    | some error =>
      obtain ⟨taken, later, hsplit, hname, hin⟩ := h.stopped error rfl
      obtain ⟨rfl, rfl⟩ := List.cons.inj hsplit
      simpa [hname] using hin
  | cons first entered =>
    have hfirst : first = command := by
      cases answer with
      | none => exact (List.cons.inj (h.whole rfl)).1
      | some error =>
        obtain ⟨taken, later, hsplit, -, -⟩ := h.stopped error rfl
        exact (List.cons.inj hsplit).1.symm
    simpa using hfirst ▸ h.fresh first List.mem_cons_self

theorem exists_enters_register (catalog : Catalog) (call : Registration) :
    ∃ entered, Enters catalog.keys call.requests entered (catalog.register call).2 ∧
      (catalog.register call).1.entries = catalog.entries ++ entriesOf entered := by
  rw [register_eq]
  exact exists_enters catalog call.requests

/-- **A call leaves the catalog as it was exactly if the name of its command is in use.** -/
theorem register_eq_self_iff (catalog : Catalog) (call : Registration) :
    (catalog.register call).1 = catalog ↔ call.command.info.name ∈ catalog.keys := by
  obtain ⟨entered, henters, hentries⟩ := exists_enters_register catalog call
  rw [← henters.eq_nil_iff, Table.ext_iff, hentries]
  simp [entriesOf]

/-! ## Runs of calls -/

/-- While `names` are in use, the calls enter `entered` in all and are given these answers. -/
inductive Fills : List String → List Registration → List Command → List (Option NameInUse) → Prop
  | nil (names : List String) : Fills names [] [] []
  | cons {names : List String} {call : Registration} {calls : List Registration}
      {entered later : List Command} {answer : Option NameInUse}
      {answers : List (Option NameInUse)} (first : Enters names call.requests entered answer)
      (rest : Fills (names ++ entered.map (·.info.name)) calls later answers) :
      Fills names (call :: calls) (entered ++ later) (answer :: answers)

theorem exists_fills (catalog : Catalog) (calls : List Registration) :
    ∃ entered, Fills catalog.keys calls entered (catalog.registerAll calls).2 ∧
      (catalog.registerAll calls).1.entries = catalog.entries ++ entriesOf entered := by
  induction calls generalizing catalog with
  | nil => exact ⟨[], .nil _, (List.append_nil _).symm⟩
  | cons call calls ih =>
    obtain ⟨entered, hfirst, hentries⟩ := exists_enters_register catalog call
    obtain ⟨later, hrest, hentries'⟩ := ih (catalog.register call).1
    have hkeys : (catalog.register call).1.keys =
        catalog.keys ++ entered.map (·.info.name) := by
      rw [Table.keys, hentries, List.map_append, entriesOf, List.map_map]
      rfl
    refine ⟨entered ++ later, .cons hfirst (hkeys ▸ hrest), ?_⟩
    rw [registerAll, hentries', hentries, List.append_assoc, entriesOf, entriesOf, entriesOf,
      List.map_append]

/-! ## The catalog that is left -/

/-- Whatever call is refused, it is refused for the name of its command. -/
def RefusesAtOnce (catalog : Catalog) : List Registration → Prop
  | [] => True
  | call :: calls =>
    ((catalog.register call).2.isSome → call.command.info.name ∈ catalog.keys) ∧
      RefusesAtOnce (catalog.register call).1 calls

/-- The requests of the calls that succeed. -/
def granted (calls : List Registration) (answers : List (Option NameInUse)) : List Command :=
  ((calls.zip answers).filter (·.2.isNone)).flatMap (·.1.requests)

theorem granted_cons_none (call : Registration) (calls : List Registration)
    (answers : List (Option NameInUse)) :
    granted (call :: calls) (none :: answers) = call.requests ++ granted calls answers := by
  simp [granted]

theorem granted_cons_some (call : Registration) (calls : List Registration) (error : NameInUse)
    (answers : List (Option NameInUse)) :
    granted (call :: calls) (some error :: answers) = granted calls answers := by
  simp [granted]

/-- If calls are refused at once, only those that succeed enter anything. -/
theorem entries_registerAll {calls : List Registration} (h : catalog.RefusesAtOnce calls) :
    (catalog.registerAll calls).1.entries =
      catalog.entries ++ entriesOf (granted calls (catalog.registerAll calls).2) := by
  induction calls generalizing catalog with
  | nil => exact (List.append_nil _).symm
  | cons call calls ih =>
    obtain ⟨hname, hrest⟩ := h
    obtain ⟨entered, henters, hentries⟩ := exists_enters_register catalog call
    have ih := ih hrest
    cases hanswer : (catalog.register call).2 with
    | none =>
      rw [henters.whole hanswer] at hentries
      simp only [registerAll, hanswer, ih, hentries, granted_cons_none, entriesOf,
        List.map_append, List.append_assoc]
    | some error =>
      have hself := (register_eq_self_iff catalog call).2 (hname (by rw [hanswer]; rfl))
      rw [hself] at ih
      simp only [registerAll, hanswer, hself, ih, granted_cons_some]

theorem list_none (catalog : Catalog) : catalog.list none = catalog.entries.map (·.2) := by
  simp [list]

theorem list_some (catalog : Catalog) (groups : List String) :
    catalog.list (some groups) =
      (catalog.list none).filter fun command => groups.contains command.info.group := by
  simp [list]

/-- **What is listed is what the calls have entered, those included that were refused.** A call
enters its command under one name after the other up to the first that is in use, and what it has
entered stays, so it leaves the catalog as it was exactly if the name of the command itself is in
use. A call without aliases that is refused always does. After any calls on an empty catalog the
commands that were entered are listed in order, each as its call says, and no name twice; and for
some groups those of them that belong to these. If whatever call was refused was refused for the name
of its command, these are the commands of the calls that succeeded. -/
theorem list_registerAll (calls : List Registration) :
    (∃ entered, Fills [] calls entered (registerAll .empty calls).2 ∧
      (registerAll .empty calls).1.list none = entered.map Command.completed) ∧
    (((registerAll .empty calls).1.list none).map (·.info.name)).Nodup ∧
    (∀ groups, (registerAll .empty calls).1.list (some groups) =
      ((registerAll .empty calls).1.list none).filter fun c => groups.contains c.info.group) ∧
    (∀ (catalog : Catalog) (call : Registration),
      (catalog.register call).1 = catalog ↔ call.command.info.name ∈ catalog.keys) ∧
    (∀ (catalog : Catalog) (command : Command) (error : NameInUse),
      (catalog.register (.plain command)).2 = some error →
        (catalog.register (.plain command)).1 = catalog) ∧
    (RefusesAtOnce .empty calls → (registerAll .empty calls).1.list none =
      (granted calls (registerAll .empty calls).2).map Command.completed) := by
  have hempty : (Table.empty : Catalog).entries = [] := rfl
  have hlist {catalog : Catalog} {commands : List Command}
      (h : catalog.entries = Table.empty.entries ++ entriesOf commands) :
      catalog.list none = commands.map Command.completed := by
    rw [list_none, h, hempty, List.nil_append, entriesOf, List.map_map]
    rfl
  obtain ⟨entered, hfills, hentries⟩ := exists_fills .empty calls
  have hlisted := hlist hentries
  refine ⟨⟨entered, hfills, hlisted⟩, ?_, list_some _, register_eq_self_iff, ?_, fun h => ?_⟩
  · have hkeys := (registerAll .empty calls).1.nodup
    rw [hentries, hempty, List.nil_append, entriesOf, List.map_map] at hkeys
    rw [hlisted, List.map_map]
    exact hkeys
  · intro catalog command error herror
    have hmem : command.info.name ∈ catalog.keys := by
      by_contra hmem
      rw [register, enter_of_not_mem hmem] at herror
      cases herror
    exact (register_eq_self_iff catalog (.plain command)).2 hmem
  · exact hlist (entries_registerAll h)

/-- A command without description and usage. -/
def bare (name : String) : Command :=
  ⟨⟨name, "", "", "core", .never⟩, .view fun _ _ _ => .ok .silent⟩

/-- The second call is refused at once. -/
theorem list_registerAll_twice :
    (register (register .empty (.plain (bare "ls"))).1 (.plain (bare "ls"))).2 = some ⟨"ls"⟩ ∧
      (register (register .empty (.plain (bare "ls"))).1 (.plain (bare "ls"))).1 =
        (register .empty (.plain (bare "ls"))).1 ∧
      RefusesAtOnce .empty
        [.plain (bare "ls"), .plain (bare "ls"), .aliased (bare "list") ["ll"]] ∧
      ((registerAll .empty [.plain (bare "ls"), .plain (bare "ls"),
        .aliased (bare "list") ["ll"]]).1.list none).map (·.info.name) = ["ls", "list", "ll"] := by
  obtain ⟨-, -, -, -, hplain, hgranted⟩ := list_registerAll
    [.plain (bare "ls"), .plain (bare "ls"), .aliased (bare "list") ["ll"]]
  have honce : RefusesAtOnce .empty
      [.plain (bare "ls"), .plain (bare "ls"), .aliased (bare "list") ["ll"]] :=
    ⟨by decide, by decide, by decide, trivial⟩
  exact ⟨by decide, hplain _ _ ⟨"ls"⟩ (by decide), honce, by rw [hgranted honce]; decide⟩

/-- **A refused call may leave a name behind:** an alias is in use, and the name before it has been
entered. -/
theorem not_unchanged_of_alias_in_use :
    ¬∀ (calls : List Registration) (call : Registration) (error : NameInUse),
      ((registerAll .empty calls).1.register call).2 = some error →
        ((registerAll .empty calls).1.register call).1 = (registerAll .empty calls).1 := by
  intro h
  have hsame := h [.plain (bare "ls")] (.aliased (bare "list") ["ls"]) ⟨"ls"⟩ (by decide)
  have hkeys := congrArg Table.keys hsame
  revert hkeys
  decide

end Catalog
end EditorShell

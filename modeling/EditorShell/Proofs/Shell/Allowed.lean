import EditorShell.Proofs.Shell.Terminal

/-!
# Only permitted commands are called

A host can name the commands that it allows. What is offered is settled when the shell is created,
and no line changes it, while lines choose the name that is called: by aliases, by quotes and by
the values of variables. So it is at the call that a name is looked up, and one that is not
permitted is found nowhere (`calls_permitted`). A host that names no command has restricted nothing,
which is what it gets for an empty list as well (`not_listed_of_empty`).
-/

namespace EditorShell

/-- A message is all that a user sees of a failure. -/
theorem Result.output_fail {stderr : String} (h : stderr ≠ "") (exitCode : Int) :
    (Result.fail stderr exitCode).output = stderr := by
  simp [output, fail, h, Text.joinLines]

namespace Shell

variable {shell : Shell} {session : Session} {settings : Settings} {allowed : List String}
  {line name : String} {args : List String} {redirection : Option Redirection}

/-- A built-in command goes by this name, its group is on, and the name is among those that are
allowed if any are named. -/
def Permitted (settings : Settings) (allowed : List String) (name : String) : Prop :=
  ∃ command, (name, command) ∈ Builtin.catalog.entries ∧
    (command.info.group = "core" ∨ command.info.group ∈ settings.commandGroups) ∧
    (allowed = [] ∨ name ∈ allowed)

theorem mem_keys_offered : name ∈ (offered settings allowed).keys ↔
    Permitted settings allowed name := by
  simp [offered, Table.keys, Permitted, Settings.enabledGroups, List.mem_insert_iff]

/-- **A name that is not offered is not found,** and that is all that comes of its line, whether the
line is executed or submitted. -/
theorem execute_of_not_offered (hsession : shell.session = some session)
    (hread : read session (Text.strip line) = .ok ⟨some name, args, redirection⟩)
    (hunknown : name ∉ shell.catalog.keys) :
    ∃ reply after, shell.execute line = .ok reply ∧ shell.submit line = .ok (.replied reply) ∧
      reply.entry = Entry.cut session.history.textLimit
        ⟨Text.strip line, args, name ++ ": command not found", 127⟩ ∧
      reply.change = none ∧ reply.shell = { shell with session := some after } ∧
      after = { session with history := after.history } := by
  have hnone : shell.catalog.get? name = none := Table.get?_eq_none_iff.2 hunknown
  have hattend : shell.attend session (.ok ⟨some name, args, redirection⟩) =
      ⟨shell.lastCommandName, session, .fail (name ++ ": command not found") 127⟩ := by
    simp only [attend, dispatch, hnone]
  have hcall : shell.networkCall? line = none := by
    simp only [networkCall?, hsession, hread, hnone]
  obtain ⟨reply, after, hexecute, hshell, hrecorded, hentry, hchange⟩ :=
    execute_of_attend hsession (strip_ne_empty_of_read hread) (hread ▸ hattend)
  rw [hread, Result.output_fail (by simp)] at hentry
  rw [if_pos rfl] at hchange
  refine ⟨reply, after, hexecute, ?_, hentry, hchange, hshell, hrecorded.eq_of_self⟩
  rw [submit_of_networkCall?_eq_none hcall, hexecute]
  rfl

end Shell

namespace Terminal

open Shell

variable {terminal : Terminal} {events : List Event} {call : Call}

/-- A run offers what was offered before it. -/
theorem catalog_handleAll (terminal : Terminal) (hevents : ∀ event ∈ events, event.KeepsCommands) :
    (terminal.handleAll events).shell.catalog = terminal.shell.catalog := by
  induction events generalizing terminal with
  | nil => rfl
  | cons event events ih =>
    have hrest := ih (terminal.handle event) fun event h => hevents event (List.mem_cons_of_mem _ h)
    exact hrest.trans (terminal.catalog_handle (hevents event List.mem_cons_self))

/-- What is called is offered at its turn. -/
theorem mem_keys_of_called? {event : Event} (h : terminal.called? event = some call) :
    call.name ∈ terminal.shell.catalog.keys := by
  obtain ⟨attended, -, hcalled⟩ := Option.bind_eq_some_iff.1 h
  obtain ⟨command, ran, hcommand, -⟩ := attend_of_called? hcalled attended.session
  exact Table.mem_keys_of_get? hcommand

/-- What is called in a run was offered before it. -/
theorem mem_keys_of_mem_calls (hevents : ∀ event ∈ events, event.KeepsCommands)
    (h : call ∈ terminal.calls events) : call.name ∈ terminal.shell.catalog.keys := by
  induction events generalizing terminal with
  | nil => cases h
  | cons event events ih =>
    rw [calls, List.mem_append, Option.mem_toList] at h
    obtain hcalled | hrest := h
    · exact mem_keys_of_called? hcalled
    · rw [← terminal.catalog_handle (hevents event List.mem_cons_self)]
      exact ih (fun event h => hevents event (List.mem_cons_of_mem _ h)) hrest

/-- **Only permitted commands are called.** In a run in which no command is registered, every call
is one of a command that the settings and the list of allowed names permit, where an empty list
permits every name. A line of a running session, whatever aliases, quotes and variables made its
name, calls the command of that name if it is permitted. If it is not, the line ends with code 127,
at once even if it is submitted, and apart from its entry in the history it leaves the session and
the shell as they were. -/
theorem calls_permitted {settings : Settings} {allowed : List String} {today : Date}
    (hevents : ∀ event ∈ events, event.KeepsCommands) :
    (∀ call ∈ (Terminal.mk (.create settings allowed today) none).calls events,
      Permitted settings allowed call.name) ∧
    ∀ shell session,
      ((Terminal.mk (.create settings allowed today) none).handleAll events).shell = shell →
      shell.session = some session →
      ∀ line name args redirection,
        read session (Text.strip line) = .ok ⟨some name, args, redirection⟩ →
        (Permitted settings allowed name →
          shell.called? (read session (Text.strip line)) = some ⟨name, args⟩ ∧
          ∃ reply, shell.execute line = .ok reply ∧ reply.shell.lastCommandName = some name) ∧
        (¬Permitted settings allowed name →
          ∃ reply after, shell.execute line = .ok reply ∧
            shell.submit line = .ok (.replied reply) ∧
            reply.entry = Entry.cut session.history.textLimit
              ⟨Text.strip line, args, name ++ ": command not found", 127⟩ ∧
            reply.change = none ∧ reply.shell = { shell with session := some after } ∧
            after = { session with history := after.history }) := by
  refine ⟨fun call hcall => ?_, fun shell session hshell hsession line name args redirection hread =>
    ⟨fun hpermitted => ?_, fun hforbidden => ?_⟩⟩
  · exact mem_keys_offered.1 (mem_keys_of_mem_calls hevents hcall)
  all_goals
    have hcatalog : shell.catalog = offered settings allowed := by
      rw [← hshell, catalog_handleAll _ hevents]
      rfl
  · have hoffered : name ∈ shell.catalog.keys := by rwa [hcatalog, mem_keys_offered]
    obtain ⟨command, hcommand⟩ := Option.isSome_iff_exists.1 (Table.get?_isSome_iff.2 hoffered)
    have hexecute := execute_of_not_blank hsession (strip_ne_empty_of_read hread)
    rw [hread] at hexecute ⊢
    exact ⟨by simp only [Shell.called?, Table.contains_iff.2 hoffered, if_true], _, hexecute,
      lastCommandName_perform hcommand session (Text.strip line) redirection⟩
  · refine execute_of_not_offered hsession hread ?_
    rwa [hcatalog, mem_keys_offered]

/-- A run in which an alias is given the name of a command that is allowed. -/
def disguising : List Event :=
  [.request (.start []), .submit "alias \"ls=cat x\""]

theorem calls_permitted_disguising :
    (∀ call ∈ (Terminal.mk (.create .default ["alias", "ls"] ⟨2024, 1, 2⟩) none).calls disguising,
      Permitted .default ["alias", "ls"] call.name) ∧
    ∃ shell session reply after,
      ((Terminal.mk (.create .default ["alias", "ls"] ⟨2024, 1, 2⟩) none).handleAll
        disguising).shell = shell ∧
      shell.session = some session ∧
      read session (Text.strip "ls > y") = .ok ⟨some "cat", ["x"], some ⟨"y", false⟩⟩ ∧
      ¬Permitted .default ["alias", "ls"] "cat" ∧
      shell.execute "ls > y" = .ok reply ∧ shell.submit "ls > y" = .ok (.replied reply) ∧
      reply.entry = Entry.cut session.history.textLimit
        ⟨Text.strip "ls > y", ["x"], "cat" ++ ": command not found", 127⟩ ∧
      reply.change = none ∧ reply.shell = { shell with session := some after } ∧
      after = { session with history := after.history } := by
  have hevents : ∀ event ∈ disguising, event.KeepsCommands := by
    simp [disguising, Event.KeepsCommands]
  obtain ⟨hcalls, hlines⟩ :=
    @calls_permitted disguising .default ["alias", "ls"] ⟨2024, 1, 2⟩ hevents
  obtain ⟨session, hsession⟩ : ∃ session,
      ((Terminal.mk (.create .default ["alias", "ls"] ⟨2024, 1, 2⟩) none).handleAll
        disguising).shell.session = some session :=
    Option.isSome_iff_exists.1 (by decide +kernel)
  have hread :
      ((Terminal.mk (.create .default ["alias", "ls"] ⟨2024, 1, 2⟩) none).handleAll
        disguising).shell.session.map (fun session => read session (Text.strip "ls > y")) =
      some (.ok ⟨some "cat", ["x"], some ⟨"y", false⟩⟩) := by
    decide +kernel
  rw [hsession, Option.map_some, Option.some.injEq] at hread
  have hforbidden : ¬Permitted .default ["alias", "ls"] "cat" := by
    rintro ⟨command, -, -, hempty | hlisted⟩
    · cases hempty
    · exact absurd hlisted (by decide)
  obtain ⟨reply, after, h⟩ := (hlines _ session rfl hsession _ _ _ _ hread).2 hforbidden
  exact ⟨hcalls, _, session, reply, after, rfl, hsession, hread, hforbidden, h⟩

/-- **An empty list forbids nothing,** so a command is called although its name is not listed. -/
theorem not_listed_of_empty :
    ¬∀ (settings : Settings) (allowed : List String) (today : Date) (events : List Event),
      (∀ event ∈ events, event.KeepsCommands) →
        ∀ call ∈ (Terminal.mk (.create settings allowed today) none).calls events,
          call.name ∈ allowed := by
  intro h
  have hlisted := h .default [] ⟨2024, 1, 2⟩ [.request (.start []), .request (.execute "mkdir d")]
    (by simp [Event.KeepsCommands]) ⟨"mkdir", ["d"]⟩ (by decide +kernel)
  cases hlisted

end Terminal
end EditorShell

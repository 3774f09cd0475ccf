import EditorShell.Proofs.Shell.Effects

/-!
# Runs in which lines wait

Between the time when a line is submitted and the time when its wait ends, anything may happen to
the shell: lines are executed, another project tree is loaded, the session is stopped and another
one started. A terminal is a shell with the line that waits, and its events are the requests of a
client and the two halves of such a line, in any order; the second half may be missing. An event
runs at most one line; else it is a request that is no line, or it leaves the shell as it is
(`shell_handle`), so what requests and lines keep, a run keeps (`wellFormed_handleAll`). Which
commands are called in a run is its trace of calls (`calls`).
-/

namespace EditorShell

/-- A shell, and the line that waits if one does. -/
structure Terminal where
  shell : Shell
  pending : Option Pending

/-- What happens at a terminal. -/
inductive Event where
  | request (request : Request)
  /-- It is a line's turn to be read. No line has its turn while another one waits. -/
  | submit (line : String)
  /-- The wait of the line that waits has ended. -/
  | wake
  /-- The wait is broken off, and its line is not run. -/
  | cancel

/-- The event registers no command. -/
def Event.KeepsCommands (event : Event) : Prop :=
  ∀ command, event ≠ .request (.register command)

/-- What the event asks for keeps to operations on canonical paths. -/
def Event.IsSafe : Event → Prop
  | .request asked => asked.IsSafe
  | _ => True

/-- A command that is called. -/
structure Call where
  name : String
  args : List String
deriving DecidableEq, Repr

/-- A line that is run, in the session in which it is run. -/
structure Attended where
  session : Session
  raw : String
  line : Except SyntaxError CommandLine

namespace Shell

variable {shell : Shell} {session : Session} {line name : String} {args : List String}
  {attended : Attended} {parsed : Except SyntaxError CommandLine}

/-- What is run when a line is executed: nothing without a session, or if the line is blank. -/
def attended? (shell : Shell) (line : String) : Option Attended :=
  match shell.session with
  | none => none
  | some session =>
    if Text.strip line = "" then none
    else some ⟨session, Text.strip line, read session (Text.strip line)⟩

/-- The call that a line makes, if its command is offered. -/
def called? (shell : Shell) : Except SyntaxError CommandLine → Option Call
  | .ok ⟨some name, args, _⟩ => if shell.catalog.contains name then some ⟨name, args⟩ else none
  | _ => none

/-- Without a call a line leaves the session as it is. -/
theorem attend_of_called?_eq_none (h : shell.called? parsed = none) :
    (shell.attend session parsed).session = session ∧
      (shell.attend session parsed).lastCommandName = shell.lastCommandName := by
  rcases parsed with error | ⟨_ | name, args, redirection⟩
  · exact ⟨rfl, rfl⟩
  · exact ⟨rfl, rfl⟩
  · have hunknown : shell.catalog.get? name = none := by
      simpa [called?, Table.get?_eq_none_iff] using h
    simp only [attend, dispatch, hunknown, and_self]

/-- **What a call leaves** is what the handler of the command leaves, apart from the file that a
redirection writes. -/
theorem attend_of_called? (h : shell.called? parsed = some ⟨name, args⟩) (session : Session) :
    ∃ command ran, shell.catalog.get? name = some command ∧
      (command.handler.run ⟨shell.settings, name, shell.infos, shell.today⟩ session args).1 = ran ∧
      (shell.attend session parsed).lastCommandName = some name ∧
      (shell.attend session parsed).session =
        { ran with store := (shell.attend session parsed).session.store } ∧
      (shell.attend session parsed).session.store.cwd = ran.store.cwd := by
  obtain ⟨redirection, hoffered, rfl⟩ : ∃ redirection, name ∈ shell.catalog.keys ∧
      parsed = .ok ⟨some name, args, redirection⟩ := by
    rcases parsed with error | ⟨_ | name', args', redirection⟩
    · cases h
    · cases h
    · simp only [called?, Table.contains_iff] at h
      split_ifs at h with hoffered
      cases h
      exact ⟨redirection, hoffered, rfl⟩
  obtain ⟨command, hcommand⟩ := Option.isSome_iff_exists.1 (Table.get?_isSome_iff.2 hoffered)
  refine ⟨command, _, hcommand, rfl, ?_⟩
  simp only [attend, dispatch, hcommand]
  split
  next after failure hrun => simp [hrun]
  next after result hrun =>
    rw [hrun]
    cases redirection with
    | none => exact ⟨rfl, rfl, rfl⟩
    | some redirection =>
      simp only [redirect, true_and]
      split
      next written hwritten => exact ⟨rfl, Store.cwd_writeFile hwritten⟩
      · exact ⟨rfl, rfl⟩

theorem execute_of_attended? (h : shell.attended? line = some attended) :
    shell.session = some attended.session ∧ shell.execute line =
      .ok (shell.perform attended.session attended.raw attended.line) := by
  cases hsession : shell.session with
  | none => simp [attended?, hsession] at h
  | some session =>
    simp only [attended?, hsession] at h
    split_ifs at h with hblank
    obtain rfl := Option.some.inj h
    refine ⟨rfl, ?_⟩
    rw [execute_of_not_blank hsession hblank]

theorem execute_of_attended?_eq_none (h : shell.attended? line = none) {reply : Reply}
    (hreply : shell.execute line = .ok reply) : reply.shell = shell := by
  obtain ⟨session, hsession, ⟨-, rfl⟩ | ⟨hne, -⟩⟩ := execute_eq_ok hreply
  · rfl
  · simp [attended?, hsession, hne] at h

/-- A line that is executed is run or changes nothing. -/
theorem handle_execute (shell : Shell) (line : String) :
    (∃ attended, shell.attended? line = some attended ∧
        shell.session = some attended.session ∧
        shell.handle (.execute line) =
          (shell.perform attended.session attended.raw attended.line).shell) ∨
      shell.attended? line = none ∧ shell.handle (.execute line) = shell := by
  cases hattended : shell.attended? line with
  | some attended =>
    obtain ⟨hsession, hreply⟩ := execute_of_attended? hattended
    exact .inl ⟨attended, rfl, hsession, by simp only [handle, hreply]⟩
  | none =>
    refine .inr ⟨rfl, ?_⟩
    simp only [handle]
    split
    next reply hreply => exact execute_of_attended?_eq_none hattended hreply
    · rfl

end Shell

namespace Terminal

variable {terminal : Terminal}

/-- The terminal after an event. -/
def handle (terminal : Terminal) : Event → Terminal
  | .request request => { terminal with shell := terminal.shell.handle request }
  | .submit line =>
    match terminal.pending, terminal.shell.submit line with
    | none, .ok (.replied reply) => ⟨reply.shell, none⟩
    | none, .ok (.waiting pending) => ⟨terminal.shell, some pending⟩
    | _, _ => terminal
  | .wake =>
    match terminal.pending with
    | some pending => ⟨(terminal.shell.resume pending).shell, none⟩
    | none => terminal
  | .cancel => { terminal with pending := none }

/-- The terminal after events in order. -/
def handleAll (terminal : Terminal) (events : List Event) : Terminal := events.foldl handle terminal

/-- The line that an event runs. A line that has to wait is run at the end of its wait. -/
def attended? (terminal : Terminal) : Event → Option Attended
  | .request (.execute line) => terminal.shell.attended? line
  | .request _ => none
  | .submit line =>
    if terminal.pending.isSome || (terminal.shell.networkCall? line).isSome then none
    else terminal.shell.attended? line
  | .wake =>
    match terminal.pending, terminal.shell.session with
    | some pending, some session => some ⟨session, pending.raw, .ok pending.line⟩
    | _, _ => none
  | .cancel => none

/-- The call that an event makes. -/
def called? (terminal : Terminal) (event : Event) : Option Call :=
  (terminal.attended? event).bind fun attended => terminal.shell.called? attended.line

/-- The calls that are made in a run, each in the state at its turn. -/
def calls (terminal : Terminal) : List Event → List Call
  | [] => []
  | event :: events => (terminal.called? event).toList ++ (terminal.handle event).calls events

/-! ## What an event does -/

/-- What comes of a line that does not wait. -/
theorem shell_handle_submit (terminal : Terminal) (line : String) :
    (terminal.attended? (.submit line) = terminal.shell.attended? line ∧
        (terminal.handle (.submit line)).shell = terminal.shell.handle (.execute line)) ∨
      terminal.attended? (.submit line) = none ∧
        (terminal.handle (.submit line)).shell = terminal.shell := by
  obtain ⟨shell, _ | pending⟩ := terminal
  · cases hcall : shell.networkCall? line with
    | none =>
      refine .inl ⟨by simp [attended?, hcall], ?_⟩
      simp only [handle, Shell.submit_of_networkCall?_eq_none hcall, Shell.handle]
      cases shell.execute line <;> rfl
    | some call =>
      obtain ⟨redirection, hsubmit, -⟩ := Shell.submit_of_networkCall?_eq_some hcall
      exact .inr ⟨by simp [attended?, hcall], by simp only [handle, hsubmit]⟩
  · exact .inr ⟨by simp [attended?], rfl⟩

/-- **What an event does to the shell:** it runs one line, or it runs none and is a request or
changes nothing. -/
theorem shell_handle (terminal : Terminal) (event : Event) :
    (∃ attended, terminal.attended? event = some attended ∧
        terminal.shell.session = some attended.session ∧
        (terminal.handle event).shell =
          (terminal.shell.perform attended.session attended.raw attended.line).shell) ∨
      terminal.attended? event = none ∧
        ((terminal.handle event).shell = terminal.shell ∨
          ∃ request, event = .request request ∧ (∀ line, request ≠ .execute line) ∧
            (terminal.handle event).shell = terminal.shell.handle request) := by
  cases event with
  | request request =>
    by_cases hline : ∃ line, request = .execute line
    · obtain ⟨line, rfl⟩ := hline
      exact (terminal.shell.handle_execute line).imp_right fun h => ⟨h.1, .inl h.2⟩
    · have hnone : terminal.attended? (.request request) = none := by
        cases request <;> first | rfl | exact absurd ⟨_, rfl⟩ hline
      exact .inr ⟨hnone, .inr ⟨request, rfl, not_exists.1 hline, rfl⟩⟩
  | submit line =>
    obtain ⟨hattended, hafter⟩ | ⟨hnone, hafter⟩ := shell_handle_submit terminal line
    · rw [hattended, hafter]
      exact (terminal.shell.handle_execute line).imp_right fun h => ⟨h.1, .inl h.2⟩
    · exact .inr ⟨hnone, .inl hafter⟩
  | wake =>
    obtain ⟨shell, _ | pending⟩ := terminal
    · exact .inr ⟨rfl, .inl rfl⟩
    · cases hsession : shell.session with
      | none =>
        refine .inr ⟨by simp only [attended?, hsession], .inl ?_⟩
        simp only [handle, Shell.resume, hsession]
      | some session =>
        refine .inl ⟨⟨session, pending.raw, .ok pending.line⟩, by simp only [attended?, hsession],
          rfl, ?_⟩
        simp only [handle, Shell.resume, hsession]
  | cancel => exact .inr ⟨rfl, .inl rfl⟩

/-- Only a registration changes which commands there are. -/
theorem catalog_handle (terminal : Terminal) {event : Event} (h : event.KeepsCommands) :
    (terminal.handle event).shell.catalog = terminal.shell.catalog := by
  obtain ⟨attended, -, -, hshell⟩ | ⟨-, hshell | ⟨request, rfl, -, hshell⟩⟩ :=
    terminal.shell_handle event <;> rw [hshell]
  · obtain ⟨recorded, hrecorded, -⟩ := Shell.session_perform terminal.shell attended.session
      attended.raw attended.line
    rw [hrecorded]
  · exact Shell.catalog_handle _ fun command hcommand => h command (hcommand ▸ rfl)

/-- An event keeps the shell of a terminal sound. -/
theorem sound_handle (h : terminal.shell.Sound) {event : Event} (hsafe : event.IsSafe) :
    (terminal.handle event).shell.Sound := by
  obtain ⟨attended, -, hsession, hshell⟩ | ⟨-, hshell | ⟨request, rfl, -, hshell⟩⟩ :=
    terminal.shell_handle event <;> rw [hshell]
  · exact h.perform hsession attended.raw attended.line
  · exact h
  · exact h.handle hsafe

theorem sound_handleAll (h : terminal.shell.Sound) {events : List Event}
    (hsafe : ∀ event ∈ events, event.IsSafe) : (terminal.handleAll events).shell.Sound := by
  induction events generalizing terminal with
  | nil => exact h
  | cons event events ih =>
    exact ih (sound_handle h (hsafe event List.mem_cons_self)) fun e he =>
      hsafe e (List.mem_cons_of_mem event he)

/-- **The store of a running session is well formed,** also if lines have waited. -/
theorem wellFormed_handleAll {settings : Settings} {allowed : List String} {today : Date}
    {events : List Event} (hsafe : ∀ event ∈ events, event.IsSafe) {session : Session}
    (hrunning : ((Terminal.mk (.create settings allowed today) none).handleAll events).shell.session
      = some session) : session.store.WellFormed := by
  have hcreated : (Terminal.mk (.create settings allowed today) none).shell.Sound :=
    Shell.Sound.create settings allowed today
  exact (sound_handleAll hcreated hsafe).store session hrunning

end Terminal
end EditorShell

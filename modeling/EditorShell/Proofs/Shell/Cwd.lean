import EditorShell.Proofs.Shell.History
import EditorShell.Proofs.Shell.Terminal

/-!
# The variable that tells the working directory

The working directory is moved by commands that know nothing of variables: `rm` and `mv` move it
when they take it away. The variable `PWD` is set in other places, by `cd` and by whatever starts a
session, loads a tree or ends a line. What ties the two is that a call which does not name the
variable leaves it alone or sets it to the working directory (`mindsPwd_catalog`), and that the end
of a line sets it if the directory has changed over the line (`told_perform`).
-/

namespace EditorShell

open Builtin

/-- The call is one of `export` or `unset` that names the variable `PWD`, with a value or not. -/
def Call.NamesPwd (call : Call) : Prop :=
  call.name = "export" ∧ (∃ arg ∈ call.args, (Text.partition '=' arg).1 = "PWD") ∨
    call.name = "unset" ∧ "PWD" ∈ call.args

instance (call : Call) : Decidable call.NamesPwd := inferInstanceAs (Decidable (_ ∨ _))

namespace Session

variable {session middle after : Session} {settings : Settings} {tree : List ProjectNode}

/-- The variable `PWD` tells the working directory. -/
def TellsCwd (session : Session) : Prop :=
  session.environment.get? "PWD" = some session.store.cwd

/-- The variable `PWD` is as it was or tells the working directory. -/
def MindsPwd (session after : Session) : Prop :=
  after.environment.get? "PWD" = session.environment.get? "PWD" ∨ after.TellsCwd

theorem tellsCwd_tellCwd (session : Session) : session.tellCwd.TellsCwd := by
  simp [TellsCwd, tellCwd]

theorem tellsCwd_start (h : Session.start settings tree = .ok session) : session.TellsCwd := by
  simp only [Session.start] at h
  generalize ofSettings settings _ = fresh at h
  cases fresh with
  | error error => cases h
  | ok fresh =>
    rw [← Except.ok.inj h]
    exact tellsCwd_tellCwd fresh

namespace MindsPwd

theorem of_eq (h : after.environment = session.environment) : session.MindsPwd after :=
  .inl (by rw [h])

/-- As long as the working directory stays, the variable goes on telling it. -/
theorem tellsCwd (h : session.MindsPwd after) (htells : session.TellsCwd)
    (hcwd : after.store.cwd = session.store.cwd) : after.TellsCwd := by
  obtain hkept | htold := h
  · rw [TellsCwd, hkept, htells, hcwd]
  · exact htold

/-- The rest of a session has no part in it. -/
theorem congr_right (h : session.MindsPwd middle)
    (henvironment : after.environment = middle.environment)
    (hcwd : after.store.cwd = middle.store.cwd) : session.MindsPwd after := by
  rw [MindsPwd, TellsCwd, henvironment, hcwd]
  exact h

end MindsPwd
end Session

/-! ## What commands do to the variable -/

/-- The handler of the command `name` minds the variable `PWD` in every call that does not name
it. -/
def Handler.MindsPwd (name : String) (handler : Handler) : Prop :=
  ∀ (surroundings : Surroundings) (session : Session) (args : List String),
    ¬Call.NamesPwd ⟨name, args⟩ →
      session.MindsPwd (handler.run surroundings session args).1

theorem Handler.KeepsTo.mindsPwd {name : String} {handler : Handler} (h : handler.KeepsTo name)
    (hname : name ∉ environmentOwners) : handler.MindsPwd name :=
  fun surroundings session args _ => .of_eq ((h surroundings session args).environment hname)

namespace Builtin

variable {session after : Session} {arg : String} {args : List String}

theorem mindsPwd_cd : (Handler.edit cd).MindsPwd "cd" := by
  intro s session args _
  have hgo (path : String) : session.MindsPwd (go session path) :=
    .inr (by simp [Session.TellsCwd, go])
  show session.MindsPwd (cd s session args).1
  unfold cd
  split
  · exact .of_eq rfl
  · simp only
    split_ifs
    · exact hgo _
    · exact .of_eq rfl
    · exact hgo _
    · exact .of_eq rfl

theorem get?_exportOne {name : String} (h : exportOne session arg = .ok after)
    (hname : (Text.partition '=' arg).1 ≠ name) :
    after.environment.get? name = session.environment.get? name := by
  obtain rfl | ⟨value, rfl⟩ := cases_exportOne h
  · rfl
  · rw [Table.get?_set, if_neg (Ne.symm hname)]

theorem get?_exportAll {name : String} (session : Session)
    (hargs : ∀ arg ∈ args, (Text.partition '=' arg).1 ≠ name) :
    (exportAll session args).1.environment.get? name = session.environment.get? name := by
  induction args generalizing session with
  | nil => rfl
  | cons arg args ih =>
    have hrest (session : Session) := ih session fun arg h => hargs arg (List.mem_cons_of_mem _ h)
    cases hone : exportOne session arg with
    | ok after =>
      rw [exportAll_cons_ok hone, hrest, get?_exportOne hone (hargs arg List.mem_cons_self)]
    | error message =>
      rw [exportAll_cons_error hone]
      exact hrest session

theorem get?_foldl_erase {name : String} (table : Table String) (h : name ∉ args) :
    (args.foldl Table.erase table).get? name = table.get? name := by
  induction args generalizing table with
  | nil => rfl
  | cons arg args ih =>
    rw [List.mem_cons, not_or] at h
    rw [List.foldl_cons, ih _ h.2, Table.get?_erase, if_neg h.1]

theorem mindsPwd_exportVariables : (Handler.edit exportVariables).MindsPwd "export" := by
  intro s session args hcall
  have hargs : ∀ arg ∈ args, (Text.partition '=' arg).1 ≠ "PWD" :=
    fun arg harg hname => hcall (.inl ⟨rfl, arg, harg, hname⟩)
  show session.MindsPwd (exportVariables s session args).1
  unfold exportVariables
  split
  · exact .of_eq rfl
  · exact .inl (get?_exportAll session hargs)

theorem mindsPwd_unsetVariables : (Handler.edit unsetVariables).MindsPwd "unset" := by
  intro s session args hcall
  have hargs : "PWD" ∉ args := fun hname => hcall (.inr ⟨rfl, hname⟩)
  exact .inl (get?_foldl_erase session.environment hargs)

/-- **A built-in command that is not told to leaves `PWD` alone,** unless it sets the variable to
the working directory. -/
theorem mindsPwd_catalog : ∀ entry ∈ catalog.entries, entry.2.handler.MindsPwd entry.1 :=
  forall_catalog_of_environmentOwners (fun _ _ hkeeps hname => hkeeps.mindsPwd hname)
    ⟨mindsPwd_cd, mindsPwd_exportVariables, mindsPwd_unsetVariables⟩

end Builtin

/-! ## What lines and requests do to the variable -/

/-- The request leaves it to commands to move the working directory, and adds no command. -/
def Request.LeavesCwd : Request → Prop
  | .perform operation => ¬operation.MovesCwd
  | .register _ => False
  | _ => True

/-- The event is that of a line, or a request of that kind. -/
def Event.LeavesCwd : Event → Prop
  | .request asked => asked.LeavesCwd
  | _ => True

namespace Shell

variable {shell : Shell} {session after : Session}

/-- What a line leaves before it is recorded. -/
theorem mindsPwd_attend (hbuiltin : shell.IsBuiltin) (session : Session)
    {parsed : Except SyntaxError CommandLine}
    (hcall : ∀ call, shell.called? parsed = some call → ¬call.NamesPwd) :
    session.MindsPwd (shell.attend session parsed).session := by
  cases hcalled : shell.called? parsed with
  | none =>
    have hkept : (shell.attend session parsed).session = session :=
      (attend_of_called?_eq_none hcalled).1
    exact .of_eq (by rw [hkept])
  | some call =>
    obtain ⟨name, args⟩ := call
    obtain ⟨command, ran, hcommand, hran, -, hsession, hcwd⟩ := attend_of_called? hcalled session
    have hminds := mindsPwd_catalog _ (hbuiltin _ (Table.mem_entries_of_get? hcommand))
      ⟨shell.settings, name, shell.infos, shell.today⟩ session args (hcall _ hcalled)
    rw [hran] at hminds
    exact hminds.congr_right (by rw [hsession]) hcwd

/-- **After a line the variable tells the working directory,** if it did before, whatever moved the
directory and whatever has failed. -/
theorem told_perform (hbuiltin : shell.IsBuiltin) (htells : session.TellsCwd) (raw : String)
    {parsed : Except SyntaxError CommandLine}
    (hcall : ∀ call, shell.called? parsed = some call → ¬call.NamesPwd)
    (hafter : (shell.perform session raw parsed).shell.session = some after) : after.TellsCwd := by
  obtain ⟨recorded, hrecorded, hleft⟩ := exists_recorded shell session raw parsed
  rw [hafter, Option.some.injEq] at hrecorded
  subst hrecorded
  have hminds := mindsPwd_attend hbuiltin session hcall
  rw [Session.TellsCwd, hleft.environment, hleft.store]
  split_ifs with hcwd
  · exact hminds.tellsCwd htells hcwd
  · rw [Table.get?_set, if_pos rfl]

/-- A request that is no line tells the working directory in the session that it starts or in which
it loads a tree, and leaves the variable and the directory of any other. -/
theorem told_handle (htells : ∀ session, shell.session = some session → session.TellsCwd)
    {request : Request} (hrequest : request.LeavesCwd) (hline : ∀ line, request ≠ .execute line)
    (hafter : (shell.handle request).session = some after) : after.TellsCwd := by
  obtain ⟨tree, hstart⟩ | ⟨session, hsession, rfl | ⟨tree, rfl⟩ | ⟨operation, rfl, rfl⟩⟩ :=
    session_handle hline hafter
  · exact Session.tellsCwd_start hstart
  · exact htells after hsession
  · exact Session.tellsCwd_tellCwd _
  · have hcwd : (session.store.perform operation).1.cwd = session.store.cwd :=
      Store.cwd_perform hrequest
    rw [Session.TellsCwd, hcwd]
    exact htells session hsession

end Shell

/-! ## Runs -/

namespace Terminal

variable {terminal : Terminal} {event : Event} {events : List Event}

/-- All commands are built in, and the variable of the running session tells the working
directory. -/
structure TellsCwd (terminal : Terminal) : Prop where
  builtin : terminal.shell.IsBuiltin
  told : ∀ session, terminal.shell.session = some session → session.TellsCwd

/-- **An event keeps the variable and the working directory together.** -/
theorem TellsCwd.handle (h : terminal.TellsCwd) (hevent : event.LeavesCwd)
    (hcall : ∀ call, terminal.called? event = some call → ¬call.NamesPwd) :
    (terminal.handle event).TellsCwd := by
  refine ⟨?_, fun after hafter => ?_⟩
  · have hkeeps : event.KeepsCommands := by
      rintro command rfl
      exact hevent
    rw [Shell.IsBuiltin, terminal.catalog_handle hkeeps]
    exact h.builtin
  · obtain ⟨attended, hattended, hsession, hshell⟩ | ⟨-, hshell | ⟨request, rfl, hline, hshell⟩⟩ :=
      terminal.shell_handle event <;> rw [hshell] at hafter
    · refine Shell.told_perform h.builtin (h.told _ hsession) attended.raw (fun call => ?_) hafter
      intro hcalled
      exact hcall call (by rw [called?, hattended, Option.bind_some, hcalled])
    · exact h.told after hafter
    · exact Shell.told_handle h.told hevent hline hafter

theorem TellsCwd.handleAll (h : terminal.TellsCwd) (hevents : ∀ event ∈ events, event.LeavesCwd)
    (hcalls : ∀ call ∈ terminal.calls events, ¬call.NamesPwd) :
    (terminal.handleAll events).TellsCwd := by
  induction events generalizing terminal with
  | nil => exact h
  | cons event events ih =>
    simp only [calls, List.mem_append, Option.mem_toList] at hcalls
    have hfirst : (terminal.handle event).TellsCwd :=
      h.handle (hevents event List.mem_cons_self) fun call hcall => hcalls call (.inl hcall)
    exact ih hfirst (fun event h => hevents event (List.mem_cons_of_mem _ h))
      fun call hcall => hcalls call (.inr hcall)

/-- **`PWD` always tells the working directory.** Whatever lines are executed or submitted, wait and
fail, and whatever sessions are started and trees are loaded in between: as long as the commands are
built in and no call of `export` or `unset` names the variable, its value in the running session is
the working directory. -/
theorem pwd_eq_cwd {settings : Settings} {allowed : List String} {today : Date}
    (hevents : ∀ event ∈ events, event.LeavesCwd)
    (hcalls : ∀ call ∈ (Terminal.mk (.create settings allowed today) none).calls events,
      ¬call.NamesPwd)
    {session : Session}
    (hrunning : ((Terminal.mk (.create settings allowed today) none).handleAll events).shell.session
      = some session) :
    session.environment.get? "PWD" = some session.store.cwd := by
  have hcreated : (Terminal.mk (.create settings allowed today) none).TellsCwd :=
    ⟨fun entry hentry => (List.mem_filter.1 hentry).1, fun session h => by cases h⟩
  exact (hcreated.handleAll hevents hcalls).told session hrunning

/-- Lines of which the second waits, while the directory in which it was submitted is removed. -/
def relocating : List Event :=
  [.request (.start [.leaf ⟨"1", "a", .folder, none, none⟩]), .submit "cd a",
    .submit "wget x > w", .request (.execute "rm -r ../a"), .wake]

theorem pwd_eq_cwd_relocating :
    ∃ session,
      ((Terminal.mk (.create .default [] ⟨2024, 1, 2⟩) none).handleAll relocating).shell.session =
        some session ∧
      session.environment.get? "PWD" = some session.store.cwd := by
  obtain ⟨session, hrunning⟩ : ∃ session,
      ((Terminal.mk (.create .default [] ⟨2024, 1, 2⟩) none).handleAll relocating).shell.session =
        some session :=
    Option.isSome_iff_exists.1 (by decide +kernel)
  refine ⟨session, hrunning, pwd_eq_cwd ?_ ?_ hrunning⟩
  · simp [relocating, Event.LeavesCwd, Request.LeavesCwd]
  · decide +kernel

end Terminal
end EditorShell

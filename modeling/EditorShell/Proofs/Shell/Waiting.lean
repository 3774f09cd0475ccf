import EditorShell.Proofs.Shell.Run
import EditorShell.Shell.Waiting

/-!
# Lines that wait are lines that run

Lines that are served together, some of which wait, do what the same lines do one after the other.
Serving a line and executing it agree on whether it is run, because a line that waits has been read
before (`submit_of_networkCall?_eq_some`); `foldl_serve` carries this through a list of lines. If
the session is stopped during a wait, the lines before that one have run, and no line from there on
does.
-/

namespace EditorShell
namespace Shell

variable {ε : Type} {shell : Shell} {line name : String} {args lines : List String}

/-! ## One line after the other -/

/-- What has come of lines that were executed one after the other. -/
structure Executed where
  shell : Shell
  answers : List (Except SessionClosed Entry)
  /-- The project trees that were shown, in order. -/
  changes : List (List ProjectNode)

/-- Executes lines one after the other. -/
def executeAll (shell : Shell) : List String → Executed
  | [] => ⟨shell, [], []⟩
  | line :: lines =>
    match shell.execute line with
    | .ok reply =>
      let rest := reply.shell.executeAll lines
      ⟨rest.shell, .ok reply.entry :: rest.answers, reply.change.toList ++ rest.changes⟩
    | .error error =>
      let rest := shell.executeAll lines
      ⟨rest.shell, .error error :: rest.answers, rest.changes⟩

/-- The name and the arguments of the command for which a line waits: the line stands for a command
that exists, and a call with these arguments uses the network. -/
def networkCall? (shell : Shell) (line : String) : Option (String × List String) :=
  match shell.session with
  | none => none
  | some session =>
    match read session (Text.strip line) with
    | .ok ⟨some name, args, _⟩ =>
      match shell.catalog.get? name with
      | some command => if command.info.latency.waits args then some (name, args) else none
      | none => none
    | _ => none

/-- How many of the lines wait, each in the state at its turn. -/
def waitCount (shell : Shell) : List String → Nat
  | [] => 0
  | line :: lines =>
    (if (shell.networkCall? line).isSome then 1 else 0) +
      (shell.handle (.execute line)).waitCount lines

/-! ## Submitting and executing -/

theorem networkCall?_eq_some (h : shell.networkCall? line = some (name, args)) :
    ∃ session redirection, shell.session = some session ∧
      read session (Text.strip line) = .ok ⟨some name, args, redirection⟩ ∧
      shell.waitsFor? ⟨some name, args, redirection⟩ = some name := by
  unfold networkCall? at h
  split at h
  · cases h
  next session hsession =>
    split at h
    next name' args' redirection hread =>
      split at h
      next command hcommand =>
        split_ifs at h with hwaits
        cases h
        exact ⟨session, redirection, hsession, hread, by simp [waitsFor?, hcommand, hwaits]⟩
      · cases h
    · cases h

theorem waitsFor?_eq_none (h : shell.networkCall? line = none) {session : Session}
    (hsession : shell.session = some session) {parsed : CommandLine}
    (hread : read session (Text.strip line) = .ok parsed) : shell.waitsFor? parsed = none := by
  obtain ⟨name, args, redirection⟩ := parsed
  simp only [networkCall?, hsession, hread] at h
  cases name with
  | none => rfl
  | some name =>
    cases hcommand : shell.catalog.get? name with
    | none => simp [waitsFor?, hcommand]
    | some command => simpa [waitsFor?, hcommand] using h

/-- A blank line calls nothing. -/
theorem strip_ne_empty_of_read {session : Session} {redirection : Option Redirection}
    (hread : read session (Text.strip line) = .ok ⟨some name, args, redirection⟩) :
    Text.strip line ≠ "" := by
  intro hblank
  have hnone : read session "" = .ok .blank := rfl
  rw [hblank, hnone] at hread
  cases hread

theorem strip_ne_empty (h : shell.networkCall? line = some (name, args)) :
    Text.strip line ≠ "" := by
  obtain ⟨session, redirection, -, hread, -⟩ := networkCall?_eq_some h
  exact strip_ne_empty_of_read hread

/-- A line that does not wait is run as it is when it is executed. -/
theorem submit_of_networkCall?_eq_none (h : shell.networkCall? line = none) :
    shell.submit line = (shell.execute line).map .replied := by
  cases hsession : shell.session with
  | none => simp only [submit, execute, require, hsession, Except.map]
  | some session =>
    simp only [submit, execute, require, hsession, Except.map]
    split
    · rfl
    · split
      next error hread => rw [hread]
      next parsed hread =>
        rw [waitsFor?_eq_none h hsession hread, hread]

/-- A line that waits has been read: when it is run at last, in the same state, it does what it does
when it is executed. -/
theorem submit_of_networkCall?_eq_some (h : shell.networkCall? line = some (name, args)) :
    ∃ redirection,
      shell.submit line =
        .ok (.waiting ⟨Text.strip line, name, ⟨some name, args, redirection⟩⟩) ∧
      shell.execute line =
        .ok (shell.resume ⟨Text.strip line, name, ⟨some name, args, redirection⟩⟩) := by
  have hne := strip_ne_empty h
  obtain ⟨session, redirection, hsession, hread, hwaits⟩ := networkCall?_eq_some h
  refine ⟨redirection, ?_, ?_⟩
  · simp only [submit, require, hsession, Except.map, if_neg hne, hread, hwaits]
  · simp only [execute, require, hsession, Except.map, if_neg hne, hread, resume]

/-! ## Serving -/

/-- What is served when lines have been executed, so many of which waited. -/
def Served.after (served : Served ε) (executed : Executed) (waits : Nat) : Served ε where
  shell := executed.shell
  waits := served.waits + waits
  answers := served.answers ++ executed.answers.map (·.mapError .closed)
  changes := served.changes ++ executed.changes

theorem shell_executeAll_singleton (shell : Shell) (line : String) :
    (shell.executeAll [line]).shell = shell.handle (.execute line) := by
  simp only [executeAll, handle]
  cases shell.execute line <;> rfl

theorem executeAll_append (shell : Shell) (before after : List String) :
    shell.executeAll (before ++ after) =
      ⟨((shell.executeAll before).shell.executeAll after).shell,
        (shell.executeAll before).answers ++
          ((shell.executeAll before).shell.executeAll after).answers,
        (shell.executeAll before).changes ++
          ((shell.executeAll before).shell.executeAll after).changes⟩ := by
  induction before generalizing shell with
  | nil => rfl
  | cons line lines ih =>
    simp only [List.cons_append, executeAll]
    split <;> simp [ih]

theorem executeAll_cons (shell : Shell) (line : String) (lines : List String) :
    shell.executeAll (line :: lines) =
      ⟨((shell.executeAll [line]).shell.executeAll lines).shell,
        (shell.executeAll [line]).answers ++
          ((shell.executeAll [line]).shell.executeAll lines).answers,
        (shell.executeAll [line]).changes ++
          ((shell.executeAll [line]).shell.executeAll lines).changes⟩ :=
  executeAll_append shell [line] lines

theorem waitCount_cons (shell : Shell) (line : String) (lines : List String) :
    shell.waitCount (line :: lines) =
      shell.waitCount [line] + (shell.executeAll [line]).shell.waitCount lines := by
  simp [waitCount, shell_executeAll_singleton]

variable {meanwhile : Nat → Shell → Shell × Option ε} {served : Served ε}

/-- A line that is served undisturbed has been executed. -/
theorem serve_eq
    (hquiet : ∀ n < served.waits + served.shell.waitCount [line], ∀ s, meanwhile n s = (s, none)) :
    served.serve meanwhile line =
      served.after (served.shell.executeAll [line]) (served.shell.waitCount [line]) := by
  cases hcall : served.shell.networkCall? line with
  | none =>
    simp only [Served.serve, submit_of_networkCall?_eq_none hcall]
    cases hexecute : served.shell.execute line with
    | error error =>
      simp [Except.map, Served.skip, Served.after, executeAll, hexecute, waitCount, hcall,
        Except.mapError]
    | ok reply =>
      simp [Except.map, Served.add, Served.after, executeAll, hexecute, waitCount, hcall,
        Except.mapError]
  | some call =>
    obtain ⟨redirection, hsubmit, hexecute⟩ := submit_of_networkCall?_eq_some hcall
    have hmeanwhile := hquiet served.waits (by simp [waitCount, hcall]) served.shell
    simp [Served.serve, hsubmit, hmeanwhile, Served.add, Served.after, executeAll, hexecute,
      waitCount, hcall, Except.mapError]

/-- Lines that are served undisturbed have been executed, one after the other. -/
theorem foldl_serve
    (hquiet : ∀ n < served.waits + served.shell.waitCount lines, ∀ s, meanwhile n s = (s, none)) :
    lines.foldl (Served.serve meanwhile) served =
      served.after (served.shell.executeAll lines) (served.shell.waitCount lines) := by
  induction lines generalizing served with
  | nil => simp [Served.after, executeAll, waitCount]
  | cons line lines ih =>
    rw [waitCount_cons] at hquiet ⊢
    have hserve : served.serve meanwhile line =
        served.after (served.shell.executeAll [line]) (served.shell.waitCount [line]) :=
      serve_eq fun n hn => hquiet n (by omega)
    rw [List.foldl_cons, hserve, ih fun n hn => hquiet n (by simp [Served.after] at hn; omega),
      executeAll_cons served.shell line lines]
    simp [Served.after, Nat.add_assoc]

/-! ## A stop during a wait -/

/-- Without a session no line is run, not even a blank one. -/
theorem foldl_serve_of_stopped (hstopped : served.shell.session = none) :
    lines.foldl (Served.serve meanwhile) served =
      { served with
        answers := served.answers ++ lines.map fun _ => .error (.closed .mk) } := by
  induction lines generalizing served with
  | nil => simp
  | cons line lines ih =>
    have hserve : served.serve meanwhile line = served.skip (.closed .mk) := by
      simp [Served.serve, submit, require, hstopped, Except.map]
    rw [List.foldl_cons, hserve, @ih (served.skip (.closed .mk)) hstopped]
    simp [Served.skip]

/-- A line that is answered as closed after a wait: it is not run, and nothing is recorded or
shown. `after` is the shell that the wait leaves. -/
def Served.closed (served : Served ε) (after : Shell) (line name : String) (args : List String) :
    Served ε where
  shell := after
  waits := served.waits + 1
  answers := served.answers ++ [.ok ⟨Text.strip line, args, name ++ ": session closed", 1⟩]
  changes := served.changes

/-- Without a session at the end of its wait, a line is closed. -/
theorem serve_eq_of_closed {after : Shell}
    (hcall : served.shell.networkCall? line = some (name, args))
    (hmeanwhile : meanwhile served.waits served.shell = (after, none))
    (hclosed : after.session = none) :
    served.serve meanwhile line = served.closed after line name args := by
  obtain ⟨redirection, hsubmit, -⟩ := submit_of_networkCall?_eq_some hcall
  simp [Served.serve, hsubmit, hmeanwhile, resume, hclosed, Served.add, Served.closed]

/-- The line that waits while the session is stopped is answered without being run. -/
theorem serve_eq_of_stop (hcall : served.shell.networkCall? line = some (name, args))
    (hstop : meanwhile served.waits served.shell = (served.shell.stop, none)) :
    served.serve meanwhile line = ⟨served.shell.stop, served.waits + 1,
      served.answers ++ [.ok ⟨Text.strip line, args, name ++ ": session closed", 1⟩],
      served.changes⟩ :=
  serve_eq_of_closed hcall hstop rfl

/-- Each wait is that of a line, with as many waits before it. -/
theorem exists_networkCall?_of_lt {k : Nat} (hk : k < shell.waitCount lines) :
    ∃ before line after call, lines = before ++ line :: after ∧ shell.waitCount before = k ∧
      (shell.executeAll before).shell.networkCall? line = some call := by
  induction lines generalizing shell k with
  | nil => exact absurd hk (Nat.not_lt_zero k)
  | cons line lines ih =>
    rw [waitCount_cons] at hk
    by_cases hfirst : k < shell.waitCount [line]
    · cases hcall : shell.networkCall? line with
      | none => simp [waitCount, hcall] at hfirst
      | some call =>
        have hzero : k = 0 := by simpa [waitCount, hcall] using hfirst
        exact ⟨[], line, lines, call, rfl, hzero.symm, hcall⟩
    · obtain ⟨before, waiting, after, call, rfl, hcount, hcall⟩ :=
        @ih (shell.executeAll [line]).shell (k - shell.waitCount [line]) (by omega)
      refine ⟨line :: before, waiting, after, call, rfl, ?_, ?_⟩
      · rw [waitCount_cons, hcount]
        omega
      · rwa [executeAll_cons]

/-- **Lines that are served together do what they do one after the other.** Undisturbed, they leave
the same shell and give the same answers and the same trees, and they wait as often as a line calls
the network in the state at its turn. If the session is stopped during one of the waits, the lines
before the one that waits have run, that line is answered and not run, and all later lines find the
session closed. -/
theorem serveAll_refines_executeAll (meanwhile : Nat → Shell → Shell × Option ε) (shell : Shell)
    (lines : List String) :
    ((∀ n < shell.waitCount lines, ∀ s, meanwhile n s = (s, none)) →
      serveAll meanwhile shell lines =
        ⟨(shell.executeAll lines).shell, shell.waitCount lines,
          (shell.executeAll lines).answers.map (·.mapError .closed),
          (shell.executeAll lines).changes⟩) ∧
    ∀ k < shell.waitCount lines, (∀ n < k, ∀ s, meanwhile n s = (s, none)) →
      (∀ s, meanwhile k s = (s.stop, none)) →
      ∃ before line after name args, lines = before ++ line :: after ∧
        shell.waitCount before = k ∧
        (shell.executeAll before).shell.networkCall? line = some (name, args) ∧
        serveAll meanwhile shell lines =
          ⟨(shell.executeAll before).shell.stop, k + 1,
            (shell.executeAll before).answers.map (·.mapError .closed) ++
              .ok ⟨Text.strip line, args, name ++ ": session closed", 1⟩ ::
                after.map fun _ => .error (.closed .mk),
            (shell.executeAll before).changes⟩ := by
  refine ⟨fun hquiet => ?_, fun k hk hquiet hstop => ?_⟩
  · rw [serveAll, foldl_serve (by simpa using hquiet)]
    simp [Served.after]
  · obtain ⟨before, line, after, ⟨name, args⟩, rfl, hcount, hcall⟩ := exists_networkCall?_of_lt hk
    refine ⟨before, line, after, name, args, rfl, hcount, hcall, ?_⟩
    have hbefore : before.foldl (Served.serve meanwhile) ⟨shell, 0, [], []⟩ =
        Served.after ⟨shell, 0, [], []⟩ (shell.executeAll before) k :=
      hcount ▸ foldl_serve (by simpa [hcount] using hquiet)
    rw [serveAll, List.foldl_append, hbefore, List.foldl_cons,
      serve_eq_of_stop hcall (by simpa [Served.after] using hstop _), foldl_serve_of_stopped rfl]
    simp [Served.after]

/-- A running shell with one command, which always waits. -/
def fetching : Shell where
  settings := .default
  catalog := .ofList
    [("fetch", ⟨⟨"fetch", "", "", "core", .always⟩, .view fun _ _ _ => .ok .silent⟩)]
  today := ⟨2024, 1, 2⟩
  lastCommandName := none
  session := some ⟨.empty, .empty, .empty, ⟨[], 0, 0⟩⟩

theorem serveAll_refines_executeAll_fetching :
    serveAll (fun _ s => (s, (none : Option Empty))) fetching ["", " fetch a "] =
      ⟨(fetching.executeAll ["", " fetch a "]).shell, fetching.waitCount ["", " fetch a "],
        (fetching.executeAll ["", " fetch a "]).answers.map (·.mapError .closed),
        (fetching.executeAll ["", " fetch a "]).changes⟩ ∧
    0 < fetching.waitCount ["", " fetch a ", ""] ∧
    ∃ before line after name args, ["", " fetch a ", ""] = before ++ line :: after ∧
      fetching.waitCount before = 0 ∧
      (fetching.executeAll before).shell.networkCall? line = some (name, args) ∧
      serveAll (fun _ s => (s.stop, (none : Option Empty))) fetching ["", " fetch a ", ""] =
        ⟨(fetching.executeAll before).shell.stop, 1,
          (fetching.executeAll before).answers.map (·.mapError .closed) ++
            .ok ⟨Text.strip line, args, name ++ ": session closed", 1⟩ ::
              after.map fun _ => .error (.closed .mk),
          (fetching.executeAll before).changes⟩ := by
  have hwaits : 0 < fetching.waitCount ["", " fetch a ", ""] := by decide +kernel
  have hquiet := (serveAll_refines_executeAll (fun _ s => (s, (none : Option Empty))) fetching
    ["", " fetch a "]).1
  have hstop := (serveAll_refines_executeAll (fun _ s => (s.stop, (none : Option Empty))) fetching
    ["", " fetch a ", ""]).2 0 hwaits
  exact ⟨hquiet fun _ _ _ => rfl, hwaits, hstop (fun n hn => absurd hn n.not_lt_zero) fun _ => rfl⟩

end Shell
end EditorShell

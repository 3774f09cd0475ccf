import EditorShell.Proofs.Shell.Effects
import Mathlib.Data.List.Zip

/-!
# The history is the end of the trace

Each line that is not blank takes a turn: it returns one entry, whatever becomes of it, and may ask
for the history to be emptied. The turns of a run are its trace, and what the history holds at any
time is the end of the trace since it was last emptied, cut to the limit (`history_executeAll`). One
turn either adds its entry to what was kept or to nothing (`history_execute`); that the oldest
entries go turn by turn, and not once at the end, makes no difference (`lastOf_append`).
-/

namespace EditorShell

open Builtin

/-! ## The end of a list -/

section

variable {α : Type} {n : Nat} {as bs : List α}

theorem lastOf_of_length_le (h : as.length ≤ n) : lastOf n as = as := by
  have hzero : as.length - n = 0 := Nat.sub_eq_zero_of_le h
  rw [lastOf, hzero, List.drop_zero]

/-- A list that is long enough hides what stands before it. -/
theorem lastOf_append_right (h : n ≤ bs.length) : lastOf n (as ++ bs) = lastOf n bs := by
  have hlength : (as ++ bs).length - n = as.length + (bs.length - n) := by
    rw [List.length_append]
    omega
  rw [lastOf, hlength, List.drop_length_add_append, lastOf]

/-- What has gone from the front of a list is not missed at its end. -/
theorem lastOf_append (n : Nat) (as bs : List α) :
    lastOf n (lastOf n as ++ bs) = lastOf n (as ++ bs) := by
  by_cases hle : as.length ≤ n
  · rw [lastOf_of_length_le hle]
  · have hlong : n ≤ (lastOf n as ++ bs).length := by
      rw [List.length_append, length_lastOf]
      omega
    have hsplit : as ++ bs = as.take (as.length - n) ++ (lastOf n as ++ bs) := by
      rw [lastOf, ← List.append_assoc, List.take_append_drop]
    rw [hsplit, lastOf_append_right hlong]

end

/-- **The recent entries** are the last ones that the history keeps, as many as are asked for, with
their positions in it, counted from one. -/
theorem History.recent_eq (history : History) (count : Int) :
    history.recent (some count) =
      (List.range' (history.entries.length - count.toNat + 1)
        (min count.toNat history.entries.length)).zip (lastOf count.toNat history.entries) := by
  have hnumbered : history.numbered =
      (List.range' 1 history.entries.length).zip history.entries := by
    rw [numbered, List.zipIdx_eq_zip_range']
    exact List.zip_swap ..
  have hlength :
      history.entries.length - (history.entries.length - count.toNat) =
        min count.toNat history.entries.length := by
    omega
  rw [recent, hnumbered, lastOf, List.zip, List.drop_zipWith, List.drop_range',
    List.length_zipWith, List.length_range', Nat.min_self, hlength, Nat.mul_one, Nat.add_comm 1]
  rfl

/-! ## Entries -/

/-- The line and each of its arguments have at most `limit` characters in the entry. -/
def Entry.IsShort (limit : Nat) (entry : Entry) : Prop :=
  ∀ text ∈ entry.command :: entry.args, text.length ≤ limit

theorem Entry.isShort_cut (limit : Nat) (entry : Entry) : (entry.cut limit).IsShort limit := by
  intro text htext
  simp only [cut, List.mem_cons, List.mem_map] at htext
  obtain rfl | ⟨arg, -, rfl⟩ := htext <;> exact Text.length_take_le ..

/-! ## Turns -/

/-- What a line that is not blank gives to the history: the entry that it returns. The entries
before it may be forgotten first. -/
structure Turn where
  entry : Entry
  forgets : Bool
deriving DecidableEq, Repr

/-- The turns since the history was last emptied, that turn included, or all if it never was. -/
def sinceForgotten : List Turn → List Turn
  | [] => []
  | turn :: turns => if turns.any (·.forgets) then sinceForgotten turns else turn :: turns

/-- What is kept after a turn if nothing had to go for want of room. -/
def Turn.keep (kept : List Entry) (turn : Turn) : List Entry :=
  (if turn.forgets then [] else kept) ++ [turn.entry]

/-- Turn by turn, what is kept is what came since it was last forgotten. -/
theorem foldl_keep (kept : List Entry) (turns : List Turn) :
    turns.foldl Turn.keep kept =
      (if turns.any (·.forgets) then [] else kept) ++ (sinceForgotten turns).map (·.entry) := by
  induction turns generalizing kept with
  | nil => simp [sinceForgotten]
  | cons turn turns ih =>
    rw [List.foldl_cons, ih, List.any_cons, sinceForgotten]
    cases hany : turns.any (·.forgets) with
    | true => simp
    | false =>
      have hall : sinceForgotten turns = turns := by
        cases turns with
        | nil => rfl
        | cons next rest =>
          rw [List.any_cons, Bool.or_eq_false_iff] at hany
          simp [sinceForgotten, hany.2]
      simp [hall, Turn.keep]

/-- What had to go before a turn is not missed after it. -/
theorem lastOf_keep (n : Nat) (kept : List Entry) (turn : Turn) :
    lastOf n (Turn.keep (lastOf n kept) turn) = lastOf n (Turn.keep kept turn) := by
  unfold Turn.keep
  split_ifs
  · rfl
  · exact lastOf_append n kept [turn.entry]

namespace Shell

variable {shell : Shell} {session : Session} {line : String}

/-- The line calls a command that is offered, so that the history is emptied. -/
def forgetsRead (shell : Shell) : Except SyntaxError CommandLine → Bool
  | .ok ⟨some name, args, _⟩ => shell.catalog.contains name && decide (Forgets name args)
  | _ => false

/-- The line, as it is read in the running session, empties the history. -/
def forgets (shell : Shell) (line : String) : Bool :=
  match shell.session with
  | some session => shell.forgetsRead (read session (Text.strip line))
  | none => false

/-- The turns of lines that are executed one after the other. A blank line takes none. -/
def turns (shell : Shell) : List String → List Turn
  | [] => []
  | line :: lines =>
    match shell.execute line with
    | .ok reply =>
      if Text.strip line = "" then reply.shell.turns lines
      else ⟨reply.entry, shell.forgets line⟩ :: reply.shell.turns lines
    | .error _ => shell.turns lines

/-- All commands that the shell offers are built in. -/
def IsBuiltin (shell : Shell) : Prop :=
  ∀ entry ∈ shell.catalog.entries, entry ∈ Builtin.catalog.entries

/-- What the command of a line, or a redirection, leaves of the history. -/
theorem history_attend (hbuiltin : shell.IsBuiltin) (session : Session)
    (line : Except SyntaxError CommandLine) :
    (shell.attend session line).session.history =
      if shell.forgetsRead line then session.history.clear else session.history := by
  have hredirect (settings : Settings) (session : Session) (result : Result)
      (redirection : Redirection) :
      (redirect settings session result redirection).1.history = session.history := by
    simp only [redirect]
    split <;> rfl
  rcases line with error | ⟨_ | name, args, redirection⟩
  · rfl
  · rfl
  · cases hcommand : shell.catalog.get? name with
    | none =>
      have habsent : shell.catalog.contains name = false := by
        rw [← Bool.not_eq_true, Table.contains_iff]
        exact Table.get?_eq_none_iff.1 hcommand
      simp [attend, dispatch, hcommand, forgetsRead, habsent]
    | some command =>
      have hoffered : shell.catalog.contains name = true := by
        rw [Table.contains_iff, ← Table.get?_isSome_iff, hcommand]
        rfl
      have hkeeps := keepsTo_catalog _ (hbuiltin _ (Table.mem_entries_of_get? hcommand))
        ⟨shell.settings, name, shell.infos, shell.today⟩ session args
      have hhistory := hkeeps.history
      simp only [forgetsRead, hoffered, Bool.true_and, decide_eq_true_eq]
      rw [← hhistory]
      simp only [attend, dispatch, hcommand]
      split
      next after failure hrun => rw [hrun]
      next after result hrun =>
        rw [hrun]
        split
        · rfl
        · exact hredirect ..

/-- **A line that is not blank adds exactly one entry to the history,** whether it is no command
line, its command is unknown, or the command succeeds, gives up or crashes. The line and its
arguments are cut in the entry, and the output is not. -/
theorem history_execute (hbuiltin : shell.IsBuiltin) (hsession : shell.session = some session)
    (hne : Text.strip line ≠ "") :
    ∃ reply after, shell.execute line = .ok reply ∧ reply.shell.session = some after ∧
      reply.shell.IsBuiltin ∧
      reply.entry = ⟨Text.take session.history.textLimit (Text.strip line),
        (recordedArgs (read session (Text.strip line))).map
          (Text.take session.history.textLimit),
        (shell.attend session (read session (Text.strip line))).result.output,
        (shell.attend session (read session (Text.strip line))).result.exitCode⟩ ∧
      reply.entry.IsShort session.history.textLimit ∧
      after.history = { session.history with
        entries := lastOf session.history.limit
          (Turn.keep session.history.entries ⟨reply.entry, shell.forgets line⟩) } := by
  have hexecute := execute_of_not_blank hsession hne
  have hforgets : shell.forgets line = shell.forgetsRead (read session (Text.strip line)) := by
    simp only [forgets, hsession]
  rw [hforgets]
  generalize read session (Text.strip line) = parsed at hexecute ⊢
  obtain ⟨after, hafter, hrecorded⟩ :=
    exists_recorded shell session (Text.strip line) parsed
  have hattend := history_attend hbuiltin session parsed
  -- the text limit is that of the session, since no command changes it
  have hlimit : (shell.attend session parsed).session.history.textLimit =
      session.history.textLimit := by
    rw [hattend]
    split <;> rfl
  have hentry : (shell.perform session (Text.strip line) parsed).entry =
      Entry.cut session.history.textLimit ⟨Text.strip line, recordedArgs parsed,
        (shell.attend session parsed).result.output,
        (shell.attend session parsed).result.exitCode⟩ := by
    simp only [perform]
    split
    · rw [hlimit]
    · rw [Session.tellCwd, hlimit]
  refine ⟨_, after, hexecute, hafter, hbuiltin, hentry, ?_, ?_⟩
  · rw [hentry]
    exact Entry.isShort_cut _ _
  · rw [hrecorded.history, hattend, Turn.keep]
    cases shell.forgetsRead parsed <;> rfl

/-- **What a run leaves of the history** is the end of what its turns keep. -/
theorem history_executeAll_of_kept {kept : List Entry} (hbuiltin : shell.IsBuiltin)
    (hsession : shell.session = some session)
    (hkept : session.history.entries = lastOf session.history.limit kept) (lines : List String) :
    ∃ after, (shell.executeAll lines).shell.session = some after ∧
      (shell.executeAll lines).shell.IsBuiltin ∧
      (∀ turn ∈ shell.turns lines, turn.entry.IsShort session.history.textLimit) ∧
      after.history = { session.history with
        entries := lastOf session.history.limit ((shell.turns lines).foldl Turn.keep kept) } := by
  induction lines generalizing shell session kept with
  | nil =>
    refine ⟨session, hsession, hbuiltin, by simp [turns], ?_⟩
    show session.history =
      { session.history with entries := lastOf session.history.limit kept }
    rw [← hkept]
  | cons line lines ih =>
    by_cases hblank : Text.strip line = ""
    · have hexecute := execute_of_blank hsession hblank
      simp only [executeAll, turns, hexecute, if_pos hblank]
      exact ih hbuiltin hsession hkept
    · obtain ⟨reply, after, hexecute, hafter, hnext, -, hshort, hhistory⟩ :=
        history_execute hbuiltin hsession hblank
      simp only [executeAll, turns, hexecute, if_neg hblank, List.foldl_cons, List.forall_mem_cons]
      have hlimit : after.history.limit = session.history.limit := by rw [hhistory]
      have htextLimit : after.history.textLimit = session.history.textLimit := by rw [hhistory]
      have hstep : after.history.entries = lastOf after.history.limit
          (Turn.keep kept ⟨reply.entry, shell.forgets line⟩) := by
        rw [hlimit, hhistory, hkept, lastOf_keep]
      obtain ⟨final, hfinal, hbuiltin', hshort', heq⟩ := ih hnext hafter hstep
      refine ⟨final, hfinal, hbuiltin', ⟨hshort, htextLimit ▸ hshort'⟩, ?_⟩
      rw [heq, hlimit, hhistory]

theorem turns_append (shell : Shell) (before after : List String) :
    shell.turns (before ++ after) =
      shell.turns before ++ (shell.executeAll before).shell.turns after := by
  induction before generalizing shell with
  | nil => rfl
  | cons line lines ih =>
    simp only [List.cons_append, turns, executeAll]
    cases shell.execute line with
    | error error => exact ih shell
    | ok reply =>
      simp only
      split <;> simp [ih]

end Shell

/-- A session starts without a history. -/
theorem Session.history_start {settings : Settings} {tree : List ProjectNode} {session : Session}
    (h : Session.start settings tree = .ok session) :
    session.history = ⟨[], settings.historyLimit, settings.historyTextLimit⟩ := by
  simp only [Session.start, ofSettings] at h
  split at h
  · cases h
  · cases h
    rfl

namespace Shell

/-- **The history is exactly the end of the trace.** In a session with built-in commands the history
holds, after any lines, the last entries of the turns since it was last emptied, that turn included,
or since the start, as many as its limit allows, and `recent` shows the last of those with their
positions. No line and no argument in them is longer than the limit for texts. Another line takes no
turn and changes nothing if it is blank. If it is not, it takes one turn, whatever becomes of it: the
entry that it returns has the first characters of the line and of each argument, as many as the limit
for texts allows, and all of the output, and this entry is added to the history. -/
theorem history_executeAll {settings : Settings} {allowed : List String} {today : Date}
    {tree : List ProjectNode} {started : Shell}
    (hstart : (create settings allowed today).start tree = .ok started) (lines : List String) :
    ∃ ran session, (started.executeAll lines).shell = ran ∧ ran.session = some session ∧
      session.history = ⟨lastOf settings.historyLimit
        ((sinceForgotten (started.turns lines)).map (·.entry)),
        settings.historyLimit, settings.historyTextLimit⟩ ∧
      (∀ turn ∈ started.turns lines, turn.entry.IsShort settings.historyTextLimit) ∧
      (∀ count : Int, session.history.recent (some count) =
        (List.range' (session.history.entries.length - count.toNat + 1)
          (min count.toNat session.history.entries.length)).zip
            (lastOf count.toNat session.history.entries)) ∧
      (∀ line, Text.strip line = "" →
        ran.execute line = .ok ⟨ran, .blank, none⟩ ∧
        started.turns (lines ++ [line]) = started.turns lines) ∧
      ∀ line, Text.strip line ≠ "" →
        ∃ reply after, ran.execute line = .ok reply ∧ reply.shell.session = some after ∧
          started.turns (lines ++ [line]) =
            started.turns lines ++ [⟨reply.entry, ran.forgets line⟩] ∧
          reply.entry = ⟨Text.take settings.historyTextLimit (Text.strip line),
            (recordedArgs (read session (Text.strip line))).map
              (Text.take settings.historyTextLimit),
            (ran.attend session (read session (Text.strip line))).result.output,
            (ran.attend session (read session (Text.strip line))).result.exitCode⟩ ∧
          after.history.entries = lastOf settings.historyLimit
            ((if ran.forgets line then [] else session.history.entries) ++ [reply.entry]) := by
  obtain ⟨fresh, hfresh, hstarted⟩ := start_eq_ok hstart
  have hempty : fresh.history = ⟨[], settings.historyLimit, settings.historyTextLimit⟩ :=
    Session.history_start hfresh
  have hbuiltin : started.IsBuiltin := by
    intro entry hentry
    rw [← hstarted] at hentry
    exact (List.mem_filter.1 hentry).1
  have hsession : started.session = some fresh := by rw [← hstarted]
  have hnothing : fresh.history.entries = lastOf fresh.history.limit [] := by
    rw [hempty]
    exact (lastOf_of_length_le (Nat.zero_le _)).symm
  obtain ⟨session, hran, hbuiltinRan, hshort, hhistory⟩ :=
    history_executeAll_of_kept hbuiltin hsession hnothing lines
  rw [hempty, foldl_keep, ite_self, List.nil_append] at hhistory
  rw [hempty] at hshort
  refine ⟨_, session, rfl, hran, hhistory, hshort, session.history.recent_eq, ?_, ?_⟩
  · intro line hblank
    have hexecute := execute_of_blank hran hblank
    refine ⟨hexecute, ?_⟩
    simp only [turns_append, turns, hexecute, if_pos hblank, List.append_nil]
  · intro line hne
    obtain ⟨reply, after, hexecute, hafter, -, hentry, -, heq⟩ :=
      history_execute hbuiltinRan hran hne
    refine ⟨reply, after, hexecute, hafter, ?_, ?_, ?_⟩
    · simp only [turns_append, turns, hexecute, if_neg hne]
    · rw [hentry, hhistory]
    · rw [heq, hhistory]
      rfl

/-- A choice of a history for two entries and of texts of four characters. -/
def cramped : Settings := { Settings.default with historyLimit := 2, historyTextLimit := 4 }

/-- Of three entries the first is gone, texts are cut, and then the history is emptied. -/
theorem history_executeAll_cramped :
    ∃ started ran session reply after,
      (create cramped [] ⟨2024, 1, 2⟩).start [] = .ok started ∧
      (started.executeAll ["pwd", "", "echo abcdef", "nosuch"]).shell = ran ∧
      ran.session = some session ∧
      session.history.entries = [⟨"echo", ["abcd"], "abcdef", 0⟩,
        ⟨"nosu", [], "nosuch: command not found", 127⟩] ∧
      session.history.recent (some 1) =
        [(2, ⟨"nosu", [], "nosuch: command not found", 127⟩)] ∧
      ran.execute " " = .ok ⟨ran, .blank, none⟩ ∧
      ran.execute "history -c" = .ok reply ∧ reply.shell.session = some after ∧
      reply.entry.command = "hist" ∧ after.history.entries = [reply.entry] := by
  have hrun : ((create cramped [] ⟨2024, 1, 2⟩).start []).toOption.map (fun started =>
      (lastOf cramped.historyLimit ((sinceForgotten
          (started.turns ["pwd", "", "echo abcdef", "nosuch"])).map (·.entry)),
        (started.executeAll ["pwd", "", "echo abcdef", "nosuch"]).shell.forgets "history -c")) =
      some ([⟨"echo", ["abcd"], "abcdef", 0⟩, ⟨"nosu", [], "nosuch: command not found", 127⟩],
        true) := by
    decide +kernel
  cases hstart : (create cramped [] ⟨2024, 1, 2⟩).start [] with
  | error error =>
    rw [hstart] at hrun
    cases hrun
  | ok started =>
    rw [hstart] at hrun
    obtain ⟨htrace, hforgets⟩ := Prod.mk.inj (Option.some.inj hrun)
    obtain ⟨ran, session, hran, hsession, hhistory, -, hrecent, hblank, hline⟩ :=
      history_executeAll hstart ["pwd", "", "echo abcdef", "nosuch"]
    rw [htrace] at hhistory
    rw [hran] at hforgets
    obtain ⟨reply, after, hexecute, hafter, -, hentry, hentries⟩ :=
      hline "history -c" (by decide +kernel)
    refine ⟨started, ran, session, reply, after, rfl, hran, hsession, by rw [hhistory], ?_,
      (hblank " " (by decide +kernel)).1, hexecute, hafter, ?_, ?_⟩
    · rw [hrecent, hhistory]
      rfl
    · have hcut : Text.take cramped.historyTextLimit (Text.strip "history -c") = "hist" := by
        decide +kernel
      rw [hentry, hcut]
    · rw [hentries, hforgets]
      rfl

end Shell
end EditorShell

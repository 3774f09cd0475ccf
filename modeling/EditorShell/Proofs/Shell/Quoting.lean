import EditorShell.Proofs.Line.Expansion
import EditorShell.Proofs.Line.Quoting
import EditorShell.Proofs.Shell.Effects

/-!
# A command gets the arguments that were typed

Between the line that is submitted and the handler of its command lie four stages: the ends of the
line are trimmed, it is cut into words, the alias in front and the variables are replaced, and the
words are put together. None of them touches a text in quotes that refers to no variable, so any
such texts reach the handler as they are (`execute_typedLine`), those too that hold blanks or look
like operators.
-/

namespace EditorShell

/-! ## Trimming -/

namespace Text

variable {inClass : Char → Bool}

theorem dropWhile_eq_self {cs : List Char} (h : ∀ c, cs.head? = some c → inClass c = false) :
    cs.dropWhile inClass = cs := by
  cases cs with
  | nil => rfl
  | cons c cs => rw [List.dropWhile_cons, h c rfl, if_neg Bool.false_ne_true]

/-- There is nothing to trim between characters that are kept. -/
theorem trimBoth_eq_self {s : String} (hfirst : ∀ c, s.toList.head? = some c → inClass c = false)
    (hlast : ∀ c, s.toList.getLast? = some c → inClass c = false) : trimBoth inClass s = s := by
  have hstart : trimStart inClass s = s := by
    rw [trimStart, dropWhile_eq_self hfirst, String.ofList_toList]
  have hreverse : ∀ c, s.toList.reverse.head? = some c → inClass c = false := by
    simpa using hlast
  rw [trimBoth, hstart, trimEnd, dropWhile_eq_self hreverse, List.reverse_reverse,
    String.ofList_toList]

end Text

/-! ## Texts in quotes -/

namespace Word

variable {name : String} {args : List String}

/-- A line of texts in quotes begins and ends with a quote. -/
theorem exists_typedLine_plain (name : String) (args : List String) :
    ∃ middle, (typedLine ((name :: args).map .plain)).toList = '"' :: (middle ++ ['"']) := by
  induction args generalizing name with
  | nil => exact ⟨name.toList, by simp [typedLine, typed]⟩
  | cons arg args ih =>
    obtain ⟨middle, hmiddle⟩ := ih arg
    refine ⟨name.toList ++ '"' :: ' ' :: '"' :: middle, ?_⟩
    rw [List.map_cons, typedLine_cons (by simp), hmiddle]
    simp [typed]

theorem strip_typedLine (name : String) (args : List String) :
    Text.strip (typedLine ((name :: args).map .plain)) =
      typedLine ((name :: args).map .plain) := by
  obtain ⟨middle, hmiddle⟩ := exists_typedLine_plain name args
  have hquote : Text.isBlank '"' = false := by decide
  refine Text.trimBoth_eq_self ?_ ?_ <;> rw [hmiddle]
  · rintro c ⟨⟩
    exact hquote
  · rw [← List.cons_append, List.getLast?_concat]
    rintro c ⟨⟩
    exact hquote

end Word

namespace CommandLine

variable {aliases environment : Table String} {name : String} {args : List String}

theorem arrange_map_plain (texts : List String) : arrange (texts.map .plain) = .ok (texts, none) := by
  induction texts with
  | nil => rfl
  | cons text texts ih =>
    rw [List.map_cons, arrange, ih]
    rfl

/-- **Texts in quotes are read as a name and its arguments,** if the name is no alias and no text
refers to a variable. -/
theorem parse_typedLine (halias : name ∉ aliases.keys)
    (htexts : ∀ text ∈ name :: args, '"' ∉ text.toList ∧ ¬Variable.Refers text) :
    parse aliases environment (Word.typedLine ((name :: args).map .plain)) =
      .ok ⟨some name, args, none⟩ := by
  have hquotable : ∀ word ∈ (name :: args).map Word.plain, word.Quotable := by
    intro word hword
    obtain ⟨text, htext, rfl⟩ := List.mem_map.1 hword
    exact (htexts text htext).1
  have hwords : Word.expandAlias? aliases ((name :: args).map .plain) =
      some ((name :: args).map .plain) := by
    simp only [List.map_cons, Word.expandAlias?, Word.text, Table.get?_eq_none_iff.2 halias]
  have hexpand : ((name :: args).map Word.plain).map (Word.expand environment) =
      (name :: args).map .plain := by
    rw [List.map_map]
    refine List.map_congr_left fun text htext => ?_
    exact congrArg Word.plain (Variable.expand_eq_self environment (htexts text htext).2)
  simp only [parse, Word.ofLine?_typedLine hquotable, Option.bind_some, hwords, hexpand, ofWords,
    arrange_map_plain]
  rfl

end CommandLine

/-! ## From the line to the handler -/

/-- What a user sees of what the command called `name` answers. -/
def Outcome.result (name : String) : Outcome → Result
  | .ok result => result
  | .error failure => failure.result name

namespace Shell

variable {shell : Shell} {session after : Session} {name : String} {args : List String}
  {command : Command} {outcome : Outcome}

/-- Without a redirection a line leads to what its command leads to. -/
theorem attend_of_run (hcommand : shell.catalog.get? name = some command)
    (hrun : command.handler.run ⟨shell.settings, name, shell.infos, shell.today⟩ session args =
      (after, outcome)) :
    shell.attend session (.ok ⟨some name, args, none⟩) =
      ⟨some name, after, Outcome.result name outcome⟩ := by
  simp only [attend, dispatch, hcommand, hrun]
  cases outcome <;> rfl

/-- **Quoting is lossless.** Texts without quotes and operators, typed in quotes and bare with
spaces between them, are read back as these texts and operators. So if a line is typed in this way
from the name of a command that is offered and is no alias, and from arguments none of which refers
to a variable, then the handler of the command is run with exactly these arguments and the output
goes nowhere else: of the session the line leaves what the handler leaves, and its entry holds the
name's answer. -/
theorem execute_typedLine :
    (∀ words : List Word, (∀ word ∈ words, word.Quotable) →
      Word.ofLine? (Word.typedLine words) = some words) ∧
    ∀ (shell : Shell) (session : Session) (name : String) (args : List String) (command : Command),
      shell.session = some session → shell.catalog.get? name = some command →
      name ∉ session.aliases.keys →
      (∀ text ∈ name :: args, '"' ∉ text.toList ∧ ¬Variable.Refers text) →
      ∃ line ran outcome reply after,
        line = Word.typedLine ((name :: args).map .plain) ∧
        read session line = .ok ⟨some name, args, none⟩ ∧
        command.handler.run ⟨shell.settings, name, shell.infos, shell.today⟩ session args =
          (ran, outcome) ∧
        shell.execute line = .ok reply ∧
        reply.shell = { shell with lastCommandName := some name, session := some after } ∧
        session.Recorded ran reply.entry after ∧
        reply.entry = Entry.cut ran.history.textLimit
          ⟨line, args, (Outcome.result name outcome).output,
            (Outcome.result name outcome).exitCode⟩ := by
  refine ⟨fun words => Word.ofLine?_typedLine, ?_⟩
  intro shell session name args command hsession hcommand halias htexts
  obtain ⟨ran, outcome, hrun⟩ : ∃ ran outcome,
      command.handler.run ⟨shell.settings, name, shell.infos, shell.today⟩ session args =
        (ran, outcome) := ⟨_, _, rfl⟩
  have hstrip := Word.strip_typedLine name args
  have hread : read session (Word.typedLine ((name :: args).map .plain)) =
      .ok ⟨some name, args, none⟩ := CommandLine.parse_typedLine halias htexts
  have hne : Text.strip (Word.typedLine ((name :: args).map .plain)) ≠ "" :=
    strip_ne_empty_of_read (hstrip ▸ hread)
  have hexecute := execute_of_not_blank hsession hne
  rw [hstrip, hread] at hexecute
  obtain ⟨reply, after, hperform, hshell, hrecorded, hentry, -⟩ :=
    perform_of_attend (attend_of_run hcommand hrun) (Word.typedLine ((name :: args).map .plain))
  rw [hperform] at hexecute
  exact ⟨_, ran, outcome, reply, after, rfl, hread, hrun, hexecute, hshell, hrecorded, hentry⟩

theorem execute_typedLine_idle :
    Word.ofLine? (Word.typedLine [.operator true, .operator false, .plain ">", .plain ""]) =
      some [.operator true, .operator false, .plain ">", .plain ""] ∧
    ∃ session command line ran outcome reply after, idle.session = some session ∧
      idle.catalog.get? "echo" = some command ∧
      line = Word.typedLine [.plain "echo", .plain " a >> b", .plain "", .plain "$5"] ∧
      read session line = .ok ⟨some "echo", [" a >> b", "", "$5"], none⟩ ∧
      command.handler.run ⟨idle.settings, "echo", idle.infos, idle.today⟩ session
        [" a >> b", "", "$5"] = (ran, outcome) ∧
      idle.execute line = .ok reply ∧
      reply.shell = { idle with lastCommandName := some "echo", session := some after } ∧
      session.Recorded ran reply.entry after ∧
      reply.entry = Entry.cut ran.history.textLimit
        ⟨line, [" a >> b", "", "$5"], (Outcome.result "echo" outcome).output,
          (Outcome.result "echo" outcome).exitCode⟩ := by
  obtain ⟨session, hsession⟩ : ∃ session, idle.session = some session :=
    Option.isSome_iff_exists.1 (by decide +kernel)
  obtain ⟨command, hcommand⟩ : ∃ command, idle.catalog.get? "echo" = some command :=
    Option.isSome_iff_exists.1 (by decide +kernel)
  have halias : idle.session.map (fun session => decide ("echo" ∈ session.aliases.keys)) =
      some false := by
    decide +kernel
  rw [hsession, Option.map_some, Option.some.injEq, decide_eq_false_iff_not] at halias
  obtain ⟨line, ran, outcome, reply, after, h⟩ :=
    execute_typedLine.2 idle session "echo" [" a >> b", "", "$5"] command hsession hcommand halias
      (by decide)
  exact ⟨execute_typedLine.1 _ (by decide), session, command, line, ran, outcome, reply, after,
    hsession, hcommand, h⟩

end Shell
end EditorShell

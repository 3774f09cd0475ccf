import EditorShell.Builtin.Variables
import EditorShell.Proofs.Line.Template
import EditorShell.Proofs.Shell.Run
import EditorShell.Proofs.Text.Cut

/-!
# What is exported and what is read

A reference reads a variable by a name, and the names that references can have are the ASCII
identifiers (`isReferable_iff`). `export` takes such a name, and it also takes one with a line feed
after it, which no reference can have (`isVariableName_iff`). A variable of the first kind reads as
what it was set to; a variable of the second kind is never read (`export_expands`).
-/

namespace EditorShell

/-! ## Names that can be referred to -/

namespace Variable

variable {cs name rest : List Char} {key text : String}

theorem isName_of_reference? (h : reference? cs = some (name, rest)) : isName name = true := by
  cases cs with
  | nil => cases h
  | cons c cs =>
    rw [reference?] at h
    split at h
    · split at h
      · split_ifs at h with hname
        cases h
        exact hname
      · cases h
    · split_ifs at h with hstart
      cases h
      rw [isName, hstart, List.all_takeWhile]
      rfl

/-- Some text refers to the variable of this name. -/
def IsReferable (key : String) : Prop := ∃ cs rest, reference? cs = some (key.toList, rest)

/-- **The names that can be referred to are the ASCII identifiers.** -/
theorem isReferable_iff : IsReferable key ↔ isName key.toList = true := by
  constructor
  · rintro ⟨cs, rest, h⟩
    exact isName_of_reference? h
  · intro h
    exact ⟨_, [], reference?_braced h []⟩

instance : DecidablePred IsReferable := fun _ => decidable_of_iff' _ isReferable_iff

/-- Only the values of names are read. -/
theorem substitute_congr {value value' : List Char → List Char}
    (h : ∀ name, isName name = true → value name = value' name) :
    substitute value cs = substitute value' cs := by
  fun_induction substitute value cs with
  | case1 => rw [substitute]
  | case2 cs name rest hread ih =>
    rw [substitute_of_reference? hread, h name (isName_of_reference? hread), ih]
  | case3 cs hread ih => rw [substitute_of_not_reference? hread, ih]
  | case4 c cs hc ih => rw [substitute, if_neg hc, ih]

/-- A variable that cannot be referred to may have any value. -/
theorem expand_set_of_not_isReferable (h : ¬IsReferable key) (environment : Table String)
    (text : String) (v : String) :
    expand (environment.set key v) text = expand environment text := by
  rw [expand, expand, substitute_congr]
  intro name hname
  have hne : String.ofList name ≠ key := by
    rintro rfl
    exact h (isReferable_iff.2 (by simpa using hname))
  simp [value, Table.getD, hne]

/-- Both references to a variable read its value. -/
theorem expand_references (h : IsReferable key) (environment : Table String) :
    expand environment ("$\x7b" ++ key ++ "\x7d") = environment.getD key "" ∧
      expand environment ("$" ++ key) = environment.getD key "" := by
  have hpiece {piece : Piece} (hfits : piece.Fits []) :
      expand environment piece.spelled = piece.filled environment := by
    have hsubstituted := substitute_spelled environment hfits
    rw [List.append_nil] at hsubstituted
    rw [expand, hsubstituted]
    simp [substitute]
  have hname := isReferable_iff.1 h
  exact ⟨@hpiece (.braced key) hname, @hpiece (.bare key) ⟨hname, by simp⟩⟩

end Variable

/-! ## Names that are taken -/

namespace Builtin

open Variable

variable {key : String} {session : Session}

/-- A name that is taken for a variable: one that can be referred to, or such a name with a line
feed after it. -/
def IsTaken (key : String) : Prop :=
  IsReferable key ∨ ∃ name, IsReferable name ∧ key = name ++ "\n"

theorem isVariableName_iff : isVariableName key = true ↔ IsTaken key := by
  rw [isVariableName, Bool.or_eq_true, Bool.and_eq_true, beq_iff_eq, IsTaken, isReferable_iff]
  refine or_congr_right ⟨?_, ?_⟩
  · rintro ⟨hlast, hname⟩
    refine ⟨String.ofList key.toList.dropLast, isReferable_iff.2 (by simpa using hname), ?_⟩
    have hsplit := List.dropLast_append_getLast? '\n' hlast
    exact String.toList_injective (by simpa using hsplit.symm)
  · rintro ⟨name, hname, rfl⟩
    simpa using isReferable_iff.1 hname

/-- The message about an argument that is refused. -/
def refusal (arg : String) : String := "export: `" ++ arg ++ "': not a valid identifier"

theorem exportOne_eq (hkey : '=' ∉ key.toList) (session : Session) (value : String) :
    exportOne session (key ++ "=" ++ value) =
      if isVariableName key then
        .ok { session with environment := session.environment.set key value }
      else .error (refusal (key ++ "=" ++ value)) := by
  have hcut : Text.partition '=' (key ++ "=" ++ value) = (key, some value) :=
    Text.partition_eq (by simp) hkey
  simp only [exportOne, hcut]
  cases isVariableName key <;> rfl

/-- The last argument is taken or refused in what the ones before it have left. -/
theorem exportAll_append (session : Session) (before : List String) (arg : String) :
    exportAll session (before ++ [arg]) =
      match exportOne (exportAll session before).1 arg with
      | .ok after => (after, (exportAll session before).2)
      | .error message =>
        ((exportAll session before).1, (exportAll session before).2 ++ [message]) := by
  induction before generalizing session with
  | nil =>
    have hnil : exportAll session [] = (session, []) := rfl
    rw [List.nil_append, hnil]
    cases hone : exportOne session arg with
    | ok after => exact exportAll_cons_ok hone []
    | error message => exact exportAll_cons_error hone []
  | cons first before ih =>
    rw [List.cons_append]
    cases hfirst : exportOne session first with
    | ok after => rw [exportAll_cons_ok hfirst, exportAll_cons_ok hfirst, ih]
    | error message =>
      rw [exportAll_cons_error hfirst, exportAll_cons_error hfirst, ih]
      cases exportOne (exportAll session before).1 arg <;> rfl

/-- **An exported variable reads as it was set, or is never read.** The last argument of a call sets
its variable if its name can be referred to, also with a line feed after it, and is refused
otherwise. Right after it, both references to a name that can be referred to are replaced by the
value. A name with a line feed is the name of another variable, which no text refers to: setting it
has changed the expansion of nothing. -/
theorem export_expands (s : Surroundings) {session prior after : Session} {before : List String}
    {messages : List String} {outcome : Outcome} {key : String} (value : String)
    (hprior : exportAll session before = (prior, messages)) (hkey : '=' ∉ key.toList)
    (hafter : exportVariables s session (before ++ [key ++ "=" ++ value]) = (after, outcome)) :
    (IsTaken key →
      after = { prior with environment := prior.environment.set key value } ∧
        outcome = .ok (.ofMessages messages)) ∧
    (¬IsTaken key →
      after = prior ∧
        outcome = .ok (.ofMessages (messages ++ [refusal (key ++ "=" ++ value)]))) ∧
    (IsReferable key ↔ isName key.toList = true) ∧
    (IsReferable key →
      expand after.environment ("$\x7b" ++ key ++ "\x7d") = value ∧
        expand after.environment ("$" ++ key) = value) ∧
    (¬IsReferable key →
      ∀ text, expand after.environment text = expand prior.environment text) := by
  have hall : exportAll session (before ++ [key ++ "=" ++ value]) =
      if isVariableName key then
        ({ prior with environment := prior.environment.set key value }, messages)
      else (prior, messages ++ [refusal (key ++ "=" ++ value)]) := by
    rw [exportAll_append, hprior, exportOne_eq hkey]
    cases isVariableName key <;> rfl
  have hnonempty : (before ++ [key ++ "=" ++ value]).isEmpty = false := by simp
  simp only [exportVariables, hnonempty, hall] at hafter
  rw [← isVariableName_iff]
  by_cases htaken : isVariableName key = true
  · simp only [htaken, if_true, Bool.false_eq_true, if_false] at hafter
    obtain ⟨rfl, rfl⟩ := Prod.mk.inj hafter
    refine ⟨fun _ => ⟨rfl, rfl⟩, fun hnot => absurd htaken hnot, isReferable_iff, ?_, ?_⟩
    · intro hreferable
      simpa [Table.getD] using expand_references hreferable (prior.environment.set key value)
    · intro hnot text
      exact expand_set_of_not_isReferable hnot prior.environment text value
  · simp only [htaken, if_false, Bool.false_eq_true] at hafter
    obtain ⟨rfl, rfl⟩ := Prod.mk.inj hafter
    refine ⟨fun h => absurd h htaken, fun _ => ⟨rfl, rfl⟩, isReferable_iff, ?_, fun _ _ => rfl⟩
    intro hreferable
    exact absurd (isVariableName_iff.2 (.inl hreferable)) htaken

/-- A session in which no variable is set. -/
def blank : Session := ⟨.empty, .empty, .empty, ⟨[], 100, 100⟩⟩

/-- What `export` finds around it, of which it reads nothing. -/
def exporting : Surroundings := ⟨.default, "export", .empty, ⟨2024, 1, 2⟩⟩

/-- A variable is set next to one of the same name without the line feed. -/
theorem export_expands_beside :
    ∃ prior after, exportAll blank ["1=x", "A=w"] = (prior, [refusal "1=x"]) ∧
      '=' ∉ "A\n".toList ∧
      exportVariables exporting blank (["1=x", "A=w"] ++ ["A\n" ++ "=" ++ "v=$A"]) =
        (after, .ok (.ofMessages [refusal "1=x"])) ∧
      after = { prior with environment := prior.environment.set "A\n" "v=$A" } ∧
      ∀ text, expand after.environment text = expand prior.environment text := by
  have htaken : IsTaken "A\n" := .inr ⟨"A", by decide, rfl⟩
  have hkey : '=' ∉ "A\n".toList := by decide
  obtain ⟨prior, hprior⟩ : ∃ prior, exportAll blank ["1=x", "A=w"] = (prior, [refusal "1=x"]) :=
    ⟨_, rfl⟩
  obtain ⟨hset, -, -, -, hnever⟩ := export_expands exporting "v=$A" hprior hkey rfl
  obtain ⟨hafter, houtcome⟩ := hset htaken
  exact ⟨prior, _, hprior, hkey, Prod.ext rfl houtcome, hafter, hnever (by decide)⟩

/-- **A name is taken that cannot be referred to:** the line is answered with code 0, the variable
is there, and no reference to it is replaced by its value. -/
theorem not_referable_of_line_feed :
    ∃ session,
      ((Shell.create .default [] ⟨2024, 1, 2⟩).handleAll
        [.start [], .execute "export \"A\n=v\""]).session = some session ∧
      session.history.entries.map (·.exitCode) = [0] ∧
      session.environment.get? "A\n" = some "v" ∧
      expand session.environment "$\x7bA\n\x7d" ≠ "v" ∧
      expand session.environment "$A\n" ≠ "v" ∧ ¬IsReferable "A\n" := by
  obtain ⟨session, hsession, hholds⟩ := Option.map_eq_some_iff.1
    (by decide +kernel :
      ((Shell.create .default [] ⟨2024, 1, 2⟩).handleAll
          [.start [], .execute "export \"A\n=v\""]).session.map
        (fun session => (session.history.entries.map (·.exitCode),
          session.environment.get? "A\n",
          expand session.environment "$\x7bA\n\x7d", expand session.environment "$A\n")) =
      some ([0], some "v", "$\x7bA\n\x7d", "\n"))
  simp only [Prod.mk.injEq] at hholds
  obtain ⟨hcode, hvariable, hbraced, hbare⟩ := hholds
  refine ⟨session, hsession, hcode, hvariable, ?_, ?_, by decide⟩
  · rw [hbraced]
    decide
  · rw [hbare]
    decide

end Builtin
end EditorShell

import EditorShell.Line.Command
import Mathlib.Data.List.Infix

/-!
# Values are text and nothing else

Variables are replaced after a line has been cut into words and before the words are put together.
It comes to the same if the command line is put together first and the references in its parts are
replaced afterwards, part by part (`parse_eq`). So which of its texts is the name, which are
arguments, where the output goes, and whether the line is a command line at all, is settled before
any value is looked up. A text in which no reference stands is left as it is
(`Variable.expand_eq_self`).
-/

namespace EditorShell

/-! ## References in a text -/

namespace Variable

variable {cs name rest : List Char} {text : String}

/-- A reference stands at the front: a dollar sign with a name after it, bare or in braces. -/
def StartsReference (cs : List Char) : Prop :=
  ∃ name rest, isName name = true ∧
    (cs = '$' :: (name ++ rest) ∨ cs = '$' :: '\x7b' :: (name ++ '\x7d' :: rest))

/-- A reference stands somewhere in the text. -/
def Refers (text : String) : Prop := ∃ cs, cs <:+ text.toList ∧ StartsReference cs

theorem isNameChar_of_isNameStart {c : Char} (h : isNameStart c = true) : isNameChar c = true := by
  simp only [isNameStart, isNameChar, Char.isAlphanum, Bool.or_eq_true] at h ⊢
  exact h.imp_left .inl

theorem all_isNameChar_of_isName (h : isName name = true) : name.all isNameChar = true := by
  cases name with
  | nil => rfl
  | cons c cs =>
    obtain ⟨hstart, hrest⟩ := Bool.and_eq_true_iff.1 h
    rw [List.all_cons, isNameChar_of_isNameStart hstart, hrest]
    rfl

/-- What is read as a reference is one. -/
theorem startsReference_of_reference? (h : reference? cs = some (name, rest)) :
    StartsReference ('$' :: cs) := by
  cases cs with
  | nil => cases h
  | cons c cs =>
    rw [reference?] at h
    split at h
    next hbrace =>
      split at h
      next tail hdrop =>
        split_ifs at h with hname
        refine ⟨_, tail, hname, .inr ?_⟩
        rw [← hdrop, List.takeWhile_append_dropWhile, hbrace]
      · cases h
    · split_ifs at h with hstart
      refine ⟨c :: cs.takeWhile isNameChar, cs.dropWhile isNameChar, ?_, .inl ?_⟩
      · rw [isName, hstart, List.all_takeWhile]
        rfl
      · rw [List.cons_append, List.takeWhile_append_dropWhile]

/-- A reference in braces ends with its brace. -/
theorem reference?_braced (h : isName name = true) (rest : List Char) :
    reference? ('\x7b' :: (name ++ '\x7d' :: rest)) = some (name, rest) := by
  have hall : ∀ c ∈ name, isNameChar c = true :=
    List.all_eq_true.1 (all_isNameChar_of_isName h)
  have hclosing : isNameChar '\x7d' ≠ true := by decide
  rw [reference?, if_pos rfl, List.dropWhile_append_of_pos hall,
    List.takeWhile_append_of_pos hall, List.dropWhile_cons_of_neg hclosing,
    List.takeWhile_cons_of_neg hclosing, List.append_nil]
  simp [h]

/-- A reference without braces takes as many characters as it can. -/
theorem reference?_bare (h : isName name = true) (rest : List Char) :
    reference? (name ++ rest) =
      some (name ++ rest.takeWhile isNameChar, rest.dropWhile isNameChar) := by
  cases name with
  | nil => cases h
  | cons c cs =>
    obtain ⟨hstart, hrest⟩ := Bool.and_eq_true_iff.1 h
    have hbrace : c ≠ '\x7b' := by
      rintro rfl
      exact absurd hstart (by decide)
    have hall : ∀ d ∈ cs, isNameChar d = true := List.all_eq_true.1 hrest
    rw [List.cons_append, reference?, if_neg hbrace, if_pos hstart,
      List.takeWhile_append_of_pos hall, List.dropWhile_append_of_pos hall]
    rfl

/-- A reference is read as one. -/
theorem isSome_reference? (h : StartsReference ('$' :: cs)) : (reference? cs).isSome = true := by
  obtain ⟨name, rest, hname, heq | heq⟩ := h
  · rw [List.tail_eq_of_cons_eq heq, reference?_bare hname]
    rfl
  · rw [List.tail_eq_of_cons_eq heq, reference?_braced hname]
    rfl

theorem startsReference_iff :
    StartsReference cs ↔ cs.head? = some '$' ∧ (reference? cs.tail).isSome = true := by
  constructor
  · intro h
    have hhead : cs.head? = some '$' := by
      obtain ⟨name, rest, -, rfl | rfl⟩ := h <;> rfl
    obtain ⟨tail, rfl⟩ := List.head?_eq_some_iff.1 hhead
    exact ⟨hhead, isSome_reference? h⟩
  · rintro ⟨hhead, hread⟩
    obtain ⟨tail, rfl⟩ := List.head?_eq_some_iff.1 hhead
    obtain ⟨⟨name, rest⟩, hread⟩ := Option.isSome_iff_exists.1 hread
    exact startsReference_of_reference? hread

instance : DecidablePred StartsReference := fun _ => decidable_of_iff' _ startsReference_iff

instance : DecidablePred Refers := fun text =>
  decidable_of_iff (∃ cs ∈ text.toList.tails, StartsReference cs) <| by
    simp only [List.mem_tails, Refers]

/-- Nothing is replaced where nothing refers. -/
theorem substitute_eq_self {value : List Char → List Char}
    (h : ∀ suffix, suffix <:+ cs → ¬StartsReference suffix) : substitute value cs = cs := by
  fun_induction substitute value cs with
  | case1 => rfl
  | case2 cs name rest hread =>
    exact absurd (startsReference_of_reference? hread) (h _ List.suffix_rfl)
  | case3 cs hread ih =>
    rw [ih fun suffix hsuffix => h suffix (hsuffix.trans (List.suffix_cons _ cs))]
  | case4 c cs hc ih =>
    rw [ih fun suffix hsuffix => h suffix (hsuffix.trans (List.suffix_cons c cs))]

/-- **A text without references is left as it is,** whatever the variables are. -/
theorem expand_eq_self (environment : Table String) (h : ¬Refers text) :
    expand environment text = text := by
  rw [expand, substitute_eq_self fun suffix hsuffix hstarts => h ⟨suffix, hsuffix, hstarts⟩,
    String.ofList_toList]

/-- A dollar sign alone, before a digit or before an open brace refers to nothing. -/
example : ¬Refers "5$, $5 or $\x7ba" ∧ Refers "$$a" := by decide

end Variable

/-! ## References in a command line -/

/-- The redirection with the references in its target replaced. -/
def Redirection.expand (environment : Table String) (redirection : Redirection) : Redirection :=
  { redirection with target := Variable.expand environment redirection.target }

namespace CommandLine

/-- The command line with the references in each of its parts replaced. -/
def expand (environment : Table String) (line : CommandLine) : CommandLine where
  name := line.name.map (Variable.expand environment)
  args := line.args.map (Variable.expand environment)
  redirection := line.redirection.map (Redirection.expand environment)

/-- The command line that a line of text stands for, with aliases replaced and variables not. -/
def template (aliases : Table String) (line : String) : Except SyntaxError CommandLine :=
  match (Word.ofLine? line).bind (Word.expandAlias? aliases) with
  | none => .error .openQuote
  | some words => ofWords words

/-- A command line without its texts. -/
structure Shape where
  hasName : Bool
  argCount : Nat
  /-- How output is redirected, if it is. -/
  append : Option Bool
deriving DecidableEq, Repr

/-- The shape of a command line. -/
def shape (line : CommandLine) : Shape :=
  ⟨line.name.isSome, line.args.length, line.redirection.map (·.append)⟩

theorem shape_expand (environment : Table String) (line : CommandLine) :
    (line.expand environment).shape = line.shape := by
  simp [shape, expand, Redirection.expand, Function.comp_def]

/-- Whether a word is an operator, and which, does not depend on the variables. -/
theorem arrange_map_expand (environment : Table String) (words : List Word) :
    arrange (words.map (Word.expand environment)) =
      (arrange words).map (Prod.map (List.map (Variable.expand environment))
        (Option.map (Redirection.expand environment))) := by
  fun_induction arrange words with
  | case1 => rfl
  | case2 text words ih =>
    simp only [List.map_cons, Word.expand, arrange, ih]
    cases arrange words <;> rfl
  | case3 append target words ih =>
    simp only [List.map_cons, Word.expand, arrange, ih]
    cases arrange words with
    | error error => rfl
    | ok parts =>
      obtain ⟨texts, redirection⟩ := parts
      cases redirection <;> rfl
  | case4 append words hnext =>
    -- what follows is no plain word, and so it is none after the expansion
    cases words with
    | nil => rfl
    | cons word words =>
      cases word with
      | plain target => exact absurd rfl (hnext target words)
      | operator next => rfl

theorem ofWords_map_expand (environment : Table String) (words : List Word) :
    ofWords (words.map (Word.expand environment)) = (ofWords words).map (expand environment) := by
  simp only [ofWords, arrange_map_expand]
  cases arrange words with
  | error error => rfl
  | ok parts =>
    obtain ⟨_ | ⟨name, args⟩, _ | redirection⟩ := parts <;> rfl

theorem parse_eq (aliases environment : Table String) (line : String) :
    parse aliases environment line = (template aliases line).map (expand environment) := by
  simp only [parse, template]
  cases (Word.ofLine? line).bind (Word.expandAlias? aliases) with
  | none => rfl
  | some words => exact ofWords_map_expand environment words

/-- **The values of variables cannot change what a line is.** It is a command line, or fails with an
error, as it is before any value is put in, and its name, its arguments and the target of its
redirection are those texts with their references replaced, each for itself. So with any other
values the same line fails with the same error, or has a name or not, as many arguments, and the
same kind of redirection. -/
theorem shape_parse (aliases environment other : Table String) (line : String) :
    parse aliases environment line = (template aliases line).map (expand environment) ∧
      (parse aliases environment line).map shape = (template aliases line).map shape ∧
      (parse aliases environment line).map shape = (parse aliases other line).map shape := by
  have hshape (values : Table String) :
      (parse aliases values line).map shape = (template aliases line).map shape := by
    rw [parse_eq]
    cases template aliases line with
    | error error => rfl
    | ok parts => exact congrArg Except.ok (shape_expand values parts)
  exact ⟨parse_eq aliases environment line, hshape environment,
    (hshape environment).trans (hshape other).symm⟩

end CommandLine
end EditorShell

import EditorShell.Proofs.Line.Expansion
import EditorShell.Proofs.Line.Grammar

/-!
# Which lines are command lines

The words of a line make up a command line unless an operator has no file name after it, or there
are operators and no word is left for a command (`ofWords_eq_error_iff`). If they do, the words that
stand right after operators are file names, of which the last one counts, and all other words are in
their order the name and the arguments (`Arranges`). Together with the grammar of words this says of
every line whether it is a command line, and which one (`template_empty_grammar`).
-/

namespace EditorShell
namespace Word

variable {word : Word} {words : List Word} {append : Bool} {target text : String}

/-- The word redirects output. -/
def isOperator : Word → Bool
  | .plain _ => false
  | .operator _ => true

/-- An operator stands last, or right before another one. -/
def LacksTarget (words : List Word) : Prop :=
  ∃ before append after, words = before ++ .operator append :: after ∧
    (after = [] ∨ ∃ next, after.head? = some (.operator next))

/-- The last operator is this one, and this text stands right after it. -/
def Redirects (words : List Word) (append : Bool) (target : String) : Prop :=
  ∃ before after, words = before ++ .operator append :: .plain target :: after ∧
    ∀ word ∈ after, word.isOperator = false

/-- The texts that do not stand right after an operator. The first word stands right after one if
`follows`. -/
def freeTexts (follows : Bool) (words : List Word) : List String :=
  (words.zip (follows :: words.map isOperator)).filterMap fun
    | (.plain text, false) => some text
    | _ => none

/-! ## Word by word -/

theorem lacksTarget_cons :
    LacksTarget (word :: words) ↔
      (word.isOperator = true ∧ (words = [] ∨ ∃ next, words.head? = some (.operator next))) ∨
        LacksTarget words := by
  constructor
  · rintro ⟨_ | ⟨first, before⟩, append, after, hwords, hafter⟩
    · obtain ⟨rfl, rfl⟩ := List.cons.inj hwords
      exact .inl ⟨rfl, hafter⟩
    · obtain ⟨rfl, rfl⟩ := List.cons.inj hwords
      exact .inr ⟨before, append, after, rfl, hafter⟩
  · rintro (⟨hword, hafter⟩ | ⟨before, append, after, rfl, hafter⟩)
    · cases word with
      | plain text => cases hword
      | operator append => exact ⟨[], append, words, rfl, hafter⟩
    · exact ⟨word :: before, append, after, rfl, hafter⟩

theorem redirects_cons :
    Redirects (word :: words) append target ↔
      (word = .operator append ∧
        ∃ after, words = .plain target :: after ∧ ∀ word ∈ after, word.isOperator = false) ∨
        Redirects words append target := by
  constructor
  · rintro ⟨_ | ⟨first, before⟩, after, hwords, hafter⟩
    · obtain ⟨rfl, rfl⟩ := List.cons.inj hwords
      exact .inl ⟨rfl, after, rfl, hafter⟩
    · obtain ⟨rfl, rfl⟩ := List.cons.inj hwords
      exact .inr ⟨before, after, rfl, hafter⟩
  · rintro (⟨rfl, after, rfl, hafter⟩ | ⟨before, after, rfl, hafter⟩)
    · exact ⟨[], after, rfl, hafter⟩
    · exact ⟨word :: before, after, rfl, hafter⟩

theorem redirects_plain : Redirects (.plain text :: words) append target ↔
    Redirects words append target := by
  simp [redirects_cons]

theorem redirects_operator_plain {next : Bool} :
    Redirects (.operator next :: .plain text :: words) append target ↔
      (next = append ∧ text = target ∧ ∀ word ∈ words, word.isOperator = false) ∨
        Redirects words append target := by
  simp [redirects_cons, and_assoc]

theorem freeTexts_plain (text : String) (words : List Word) :
    freeTexts false (.plain text :: words) = text :: freeTexts false words := rfl

theorem freeTexts_operator_plain (append : Bool) (target : String) (words : List Word) :
    freeTexts false (.operator append :: .plain target :: words) = freeTexts false words := rfl

end Word

namespace CommandLine

open Word

variable {words : List Word} {texts : List String} {redirection : Option Redirection}

/-! ## Words and their arrangement -/

/-- **Words cannot be arranged exactly if an operator has no file name after it.** -/
theorem arrange_eq_error_iff :
    (∃ error, arrange words = .error error) ↔ LacksTarget words := by
  fun_induction arrange words with
  | case1 => simp [LacksTarget]
  | case2 text words ih =>
    rw [lacksTarget_cons, ← ih]
    cases arrange words <;> simp [isOperator]
  | case3 append target words ih =>
    rw [lacksTarget_cons, lacksTarget_cons, ← ih]
    cases arrange words <;> simp [isOperator]
  | case4 append words hnext =>
    have hlacks : words = [] ∨ ∃ next, words.head? = some (.operator next) := by
      cases words with
      | nil => exact .inl rfl
      | cons word words =>
        cases word with
        | plain target => exact absurd rfl (hnext target words)
        | operator next => exact .inr ⟨next, rfl⟩
    exact iff_of_true ⟨_, rfl⟩ (lacksTarget_cons.2 (.inl ⟨rfl, hlacks⟩))

/-- **What words are arranged to:** the texts that are no file names, and the last operator with the
text after it. -/
theorem arrange_eq_ok (h : arrange words = .ok (texts, redirection)) :
    texts = freeTexts false words ∧
      (∀ target append, redirection = some ⟨target, append⟩ ↔ Redirects words append target) ∧
      (redirection = none ↔ ∀ word ∈ words, word.isOperator = false) := by
  fun_induction arrange words generalizing texts redirection with
  | case1 =>
    cases h
    simp [freeTexts, Redirects]
  | case2 text words ih =>
    cases hrest : arrange words with
    | error error =>
      rw [hrest] at h
      cases h
    | ok parts =>
      obtain ⟨rest, last⟩ := parts
      rw [hrest] at h
      cases h
      obtain ⟨htexts, hlast, hnone⟩ := ih hrest
      refine ⟨by rw [freeTexts_plain, htexts], fun target append => ?_, ?_⟩
      · rw [redirects_plain, hlast]
      · rw [hnone, List.forall_mem_cons]
        simp [isOperator]
  | case3 append target words ih =>
    cases hrest : arrange words with
    | error error =>
      rw [hrest] at h
      cases h
    | ok parts =>
      obtain ⟨rest, last⟩ := parts
      rw [hrest] at h
      cases h
      obtain ⟨htexts, hlast, hnone⟩ := ih hrest
      refine ⟨by rw [freeTexts_operator_plain, htexts], fun target' append' => ?_, ?_⟩
      · rw [redirects_operator_plain, ← hlast, ← hnone]
        cases last <;> simp [eq_comm, and_comm]
      · simp [isOperator]
  | case4 append words hnext => cases h

/-- The command line is what the words make up. -/
structure Arranges (line : CommandLine) (words : List Word) : Prop where
  name_eq : line.name = (freeTexts false words).head?
  args_eq : line.args = (freeTexts false words).tail
  redirection_eq_some_iff : ∀ target append,
    line.redirection = some ⟨target, append⟩ ↔ Redirects words append target
  redirection_eq_none_iff : line.redirection = none ↔ ∀ word ∈ words, word.isOperator = false

/-- **Words make up no command line exactly if an operator has no file name after it, or there are
operators and nothing else but file names.** -/
theorem ofWords_eq_error_iff :
    (∃ error, ofWords words = .error error) ↔
      LacksTarget words ∨
        (∃ word ∈ words, word.isOperator = true) ∧ freeTexts false words = [] := by
  cases harrange : arrange words with
  | error error =>
    have hlacks : LacksTarget words := arrange_eq_error_iff.1 ⟨error, harrange⟩
    exact iff_of_true ⟨error, by rw [ofWords, harrange]; rfl⟩ (.inl hlacks)
  | ok parts =>
    obtain ⟨texts, redirection⟩ := parts
    obtain ⟨htexts, -, hnone⟩ := arrange_eq_ok harrange
    have hnot : ¬LacksTarget words := by
      rw [← arrange_eq_error_iff, harrange]
      simp
    have hsome : (∃ word ∈ words, word.isOperator = true) ↔ redirection ≠ none := by
      rw [Ne, hnone]
      simp
    rw [ofWords, harrange, hsome, ← htexts]
    cases texts with
    | nil =>
      cases redirection with
      | none => exact iff_of_false (by rintro ⟨error, ⟨⟩⟩) (by simp [hnot])
      | some redirection => exact iff_of_true ⟨.missingCommand, rfl⟩ (by simp)
    | cons name args => exact iff_of_false (by rintro ⟨error, ⟨⟩⟩) (by simp [hnot])

theorem arranges_of_ofWords {line : CommandLine} (h : ofWords words = .ok line) :
    line.Arranges words := by
  cases harrange : arrange words with
  | error error =>
    rw [ofWords, harrange] at h
    cases h
  | ok parts =>
    obtain ⟨texts, redirection⟩ := parts
    obtain ⟨htexts, hlast, hnone⟩ := arrange_eq_ok harrange
    rw [ofWords, harrange] at h
    cases texts with
    | nil =>
      cases redirection with
      | none =>
        cases h
        exact ⟨by rw [← htexts]; rfl, by rw [← htexts]; rfl, hlast, hnone⟩
      | some redirection => cases h
    | cons name args =>
      cases h
      exact ⟨by rw [← htexts]; rfl, by rw [← htexts]; rfl, hlast, hnone⟩

/-! ## Lines -/

theorem template_empty (line : String) :
    template .empty line =
      match ofLine? line with
      | none => .error .openQuote
      | some words => ofWords words := by
  have hnone (words : List Word) : expandAlias? .empty words = some words := by
    cases words <;> rfl
  rw [template]
  cases ofLine? line with
  | none => rfl
  | some words => rw [Option.bind_some, hnone]

/-- **The lines that are command lines, and which.** A line falls into the words that the grammar
gives it. It is no command line exactly if it has an odd number of quotes, or an operator stands
last or right before another one, or there are operators and no other words than those right after
them. If it is one, its name and its arguments are in order the words that do not stand right after
an operator, and its output goes where the last operator and the word after it say. And one after
the other its words say what the line says without its quotes and the blanks outside quotes. -/
theorem template_empty_grammar (line : String) :
    (∀ words, ofLine? line = some words ↔ Spells line.toList words) ∧
      ((∃ error, template .empty line = .error error) ↔
        Odd (line.toList.count '"') ∨
          ∃ words, ofLine? line = some words ∧
            (LacksTarget words ∨
              (∃ word ∈ words, word.isOperator = true) ∧ freeTexts false words = [])) ∧
      (∀ parsed, template .empty line = .ok parsed →
        ∃ words, ofLine? line = some words ∧ parsed.Arranges words) ∧
      ∀ words, ofLine? line = some words →
        (words.flatMap fun word => word.text.toList) = substance false line.toList := by
  refine ⟨fun words => ofLine?_eq_some_iff, ?_, fun parsed hparsed => ?_, fun words hwords =>
    (ofLine?_eq_some_iff.1 hwords).flatMap_text⟩
  · rw [template_empty, ← ofLine?_eq_none_iff]
    cases ofLine? line with
    | none => simp
    | some words => simp [ofWords_eq_error_iff]
  · rw [template_empty] at hparsed
    cases hwords : ofLine? line with
    | none =>
      rw [hwords] at hparsed
      cases hparsed
    | some words =>
      rw [hwords] at hparsed
      exact ⟨words, rfl, arranges_of_ofWords hparsed⟩

/-- Of three marks the first two are one operator, and a quoted one is part of a name. -/
theorem template_empty_grammar_marks :
    (∃ error, template .empty "a >>> b" = .error error) ∧
      ∃ words, ofLine? ">x \" >\"y>> \"\"" = some words ∧
        Arranges ⟨some " >y", [], some ⟨"", true⟩⟩ words ∧
        (words.flatMap fun word => word.text.toList) = ">x >y>>".toList := by
  obtain ⟨-, hfails, -, -⟩ := template_empty_grammar "a >>> b"
  obtain ⟨-, -, harranges, hsubstance⟩ := template_empty_grammar ">x \" >\"y>> \"\""
  refine ⟨hfails.2 (.inr ⟨[.plain "a", .operator true, .operator false, .plain "b"],
    by decide +kernel, .inl ?_⟩), ?_⟩
  · exact ⟨[.plain "a"], true, [.operator false, .plain "b"], rfl, .inr ⟨false, rfl⟩⟩
  · obtain ⟨words, hwords, hparts⟩ :=
      harranges ⟨some " >y", [], some ⟨"", true⟩⟩ (by decide +kernel)
    exact ⟨words, hwords, hparts, (hsubstance words hwords).trans (by decide +kernel)⟩

end CommandLine
end EditorShell

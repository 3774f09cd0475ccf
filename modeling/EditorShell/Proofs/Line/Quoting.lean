import EditorShell.Line.Command
import Mathlib.Data.String.Basic

/-!
# Quoting loses nothing

A text without a quote can be typed as one word, whatever it holds, by putting it into quotes, and
an operator is typed as it is. Words that are typed in this way, with a space between them, are read
back as they were (`ofLine?_typedLine`): no word is lost, none becomes two or joins the next, and a
text that looks like an operator remains a text. The reason is that what is typed for one word is
read as this word whatever was before, if nothing or a space follows (`scan_typed`).
-/

namespace EditorShell
namespace Word

variable {text begun rest : List Char} {word : Word} {words : List Word}

/-- What is typed for a word: a text in quotes, an operator bare. -/
def typed : Word → String
  | .plain text => "\"" ++ text ++ "\""
  | .operator append => operatorText append

/-- What is typed for words, with a space between them. -/
def typedLine (words : List Word) : String := " ".intercalate (words.map typed)

/-- The word can be put into quotes: it is an operator, or a text without quotes. -/
def Quotable : Word → Prop
  | .plain text => '"' ∉ text.toList
  | .operator _ => True

instance : DecidablePred Quotable
  | .plain text => inferInstanceAs (Decidable ('"' ∉ text.toList))
  | .operator _ => inferInstanceAs (Decidable True)

/-! ## One word -/

/-- Inside quotes only a quote has a meaning. -/
theorem scan_true_cons (begun : Option (List Char)) (c : Char) (cs : List Char) :
    scan true begun (c :: cs) =
      if c = '"' then scan false begun cs else scan true (extend c begun) cs := by
  rw [scan.eq_def]
  simp

theorem scan_false_quote (begun : Option (List Char)) (cs : List Char) :
    scan false begun ('"' :: cs) = scan true (some (begun.getD [])) cs := by
  rw [scan.eq_def]
  simp

/-- A blank is neither a quote nor an operator. -/
theorem ne_of_isBlank {c : Char} (hc : Text.isBlank c = true) : c ≠ '"' ∧ c ≠ '>' := by
  constructor <;> rintro rfl <;> exact absurd hc (by decide)

/-- A blank ends the word that was begun, if one was. -/
theorem scan_false_blank {c : Char} (hc : Text.isBlank c = true) (begun : Option (List Char))
    (cs : List Char) :
    scan false begun (c :: cs) = (scan false none cs).map (finish begun ++ ·) := by
  obtain ⟨hquote, hmark⟩ := ne_of_isBlank hc
  rw [scan.eq_def]
  simp [hquote, hmark, hc]

theorem scan_false_space (begun : Option (List Char)) (cs : List Char) :
    scan false begun (' ' :: cs) = (scan false none cs).map (finish begun ++ ·) :=
  scan_false_blank (by decide) begun cs

/-- Everything up to the closing quote belongs to the word. -/
theorem scan_quoted (h : '"' ∉ text) :
    scan true (some begun) (text ++ '"' :: rest) =
      scan false (some (text.reverse ++ begun)) rest := by
  induction text generalizing begun with
  | nil => rw [List.nil_append, scan_true_cons, if_pos rfl, List.reverse_nil, List.nil_append]
  | cons c cs ih =>
    rw [List.mem_cons, not_or] at h
    rw [List.cons_append, scan_true_cons, if_neg (Ne.symm h.1), extend, Option.getD_some, ih h.2,
      List.reverse_cons, List.append_assoc, List.singleton_append]

/-- **What is typed for a word is read as this word,** if nothing or a space follows. -/
theorem scan_typed (hword : word.Quotable) (hrest : rest = [] ∨ ∃ more, rest = ' ' :: more) :
    scan false none (word.typed.toList ++ rest) = (scan false none rest).map (word :: ·) := by
  cases word with
  | plain text =>
    have htyped : (typed (.plain text)).toList ++ rest = '"' :: (text.toList ++ '"' :: rest) := by
      simp [typed]
    rw [htyped, scan_false_quote, Option.getD_none, scan_quoted hword, List.append_nil]
    obtain rfl | ⟨more, rfl⟩ := hrest
    · simp [scan, finish]
    · simp [scan_false_space, finish]
  | operator append =>
    -- the one-character operator must not be followed by a character that lengthens it
    obtain rfl | ⟨more, rfl⟩ := hrest <;> cases append <;> rfl

/-! ## The words of a line -/

theorem typedLine_cons (hwords : words ≠ []) :
    (typedLine (word :: words)).toList = word.typed.toList ++ ' ' :: (typedLine words).toList := by
  have hmap : words.map typed ≠ [] := by simpa using hwords
  rw [typedLine, List.map_cons, String.intercalate_cons_of_ne_nil hmap]
  simp [typedLine]

/-- **Words that are typed are read back,** each as a text or as an operator, as it was. -/
theorem ofLine?_typedLine (h : ∀ word ∈ words, word.Quotable) :
    ofLine? (typedLine words) = some words := by
  rw [ofLine?]
  induction words with
  | nil => rfl
  | cons word words ih =>
    obtain ⟨hword, hwords⟩ := List.forall_mem_cons.1 h
    by_cases hnil : words = []
    · subst hnil
      have hone : (typedLine [word]).toList = word.typed.toList ++ [] := by
        simp [typedLine]
      rw [hone, scan_typed hword (.inl rfl)]
      rfl
    · rw [typedLine_cons hnil, scan_typed hword (.inr ⟨_, rfl⟩), scan_false_space, ih hwords]
      rfl

/-- Empty texts, blanks and texts that look like operators come back. -/
example : ofLine? "\"\" \">>\" > > \" a\tb \"" =
    some [.plain "", .plain ">>", .operator false, .operator false, .plain " a\tb "] := by
  decide +kernel

end Word
end EditorShell

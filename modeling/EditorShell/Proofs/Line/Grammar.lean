import EditorShell.Proofs.Line.Quoting
import Mathlib.Algebra.Ring.Parity

/-!
# The grammar of words

Which words a line falls into can be said without reading it from left to right: `Spells` has a rule
for a blank, for either operator, and for a word, which is made of bare characters and of spans in
quotes and goes on as far as it can. Exactly the lines with an even number of quotes have words
(`ofLine?_eq_none_iff`), and they are those of the grammar (`ofLine?_eq_some_iff`). Read one after
the other, the words say what the line says without its quotes and without the blanks outside
quotes (`Spells.flatMap_text`).
-/

namespace EditorShell
namespace Word

variable {cs front written text rest inner : List Char} {word : Option (List Char)} {c : Char}
  {words more : List Word} {quoted : Bool}

/-! ## Rules -/

/-- The character stands for itself in a word, without quotes around it. -/
def IsBare (c : Char) : Prop := c ≠ '"' ∧ c ≠ '>' ∧ Text.isBlank c = false

instance : DecidablePred IsBare := fun _ => inferInstanceAs (Decidable (_ ∧ _))

/-- What is written is part of a word and stands for the text: a bare character for itself, and a
span in quotes for what is between the quotes. -/
inductive Writes : List Char → List Char → Prop where
  | nil : Writes [] []
  | bare {c : Char} {written text : List Char} : IsBare c → Writes written text →
    Writes (c :: written) (c :: text)
  | quoted {inner written text : List Char} : '"' ∉ inner → Writes written text →
    Writes ('"' :: (inner ++ '"' :: written)) (inner ++ text)

/-- A word does not go on here: the line ends, or an operator or a blank follows. -/
def EndsWord (rest : List Char) : Prop :=
  ∀ c, rest.head? = some c → c = '>' ∨ Text.isBlank c = true

/-- The characters fall into these words. -/
inductive Spells : List Char → List Word → Prop where
  | nil : Spells [] []
  | blank {c : Char} {cs : List Char} {words : List Word} : Text.isBlank c = true →
    Spells cs words → Spells (c :: cs) words
  | write {cs : List Char} {words : List Word} : cs.head? ≠ some '>' → Spells cs words →
    Spells ('>' :: cs) (.operator false :: words)
  | append {cs : List Char} {words : List Word} : Spells cs words →
    Spells ('>' :: '>' :: cs) (.operator true :: words)
  | plain {written text rest : List Char} {words : List Word} : Writes written text →
    written ≠ [] → EndsWord rest → Spells rest words →
    Spells (written ++ rest) (.plain (String.ofList text) :: words)

theorem Writes.trans {written' text' : List Char} (h : Writes written text)
    (h' : Writes written' text') : Writes (written ++ written') (text ++ text') := by
  induction h with
  | nil => exact h'
  | bare hc _ ih => exact .bare hc ih
  | quoted hinner _ ih => simpa using Writes.quoted hinner ih

/-! ## What the grammar admits is read -/

theorem scan_false_append (begun : Option (List Char)) (cs : List Char) :
    scan false begun ('>' :: '>' :: cs) =
      (scan false none cs).map (finish begun ++ .operator true :: ·) := by
  rw [scan.eq_def]
  simp

theorem scan_false_write (begun : Option (List Char)) (hcs : cs.head? ≠ some '>') :
    scan false begun ('>' :: cs) =
      (scan false none cs).map (finish begun ++ .operator false :: ·) := by
  cases cs with
  | nil => simp [scan]
  | cons d ds =>
    have hd : d ≠ '>' := fun he => hcs (he ▸ rfl)
    rw [scan.eq_def]
    simp [hd]

theorem scan_false_bare (hc : IsBare c) (begun : Option (List Char)) (cs : List Char) :
    scan false begun (c :: cs) = scan false (extend c begun) cs := by
  obtain ⟨hquote, hmark, hblank⟩ := hc
  rw [scan.eq_def]
  simp [hquote, hmark, hblank]

theorem scan_of_endsWord (h : EndsWord rest) (begun : Option (List Char)) :
    scan false begun rest = (scan false none rest).map (finish begun ++ ·) := by
  cases rest with
  | nil => simp [scan, finish]
  | cons c cs =>
    obtain rfl | hblank := h c rfl
    · by_cases hnext : cs.head? = some '>'
      · obtain ⟨tail, rfl⟩ := List.head?_eq_some_iff.1 hnext
        simp [scan_false_append, Function.comp_def, finish]
      · simp [scan_false_write _ hnext, Function.comp_def, finish]
    · simp [scan_false_blank hblank, finish]

/-- What is written of a word is added to what was read of it before. -/
theorem scan_some_of_writes (h : Writes written text) (hrest : EndsWord rest)
    (begun : List Char) :
    scan false (some begun) (written ++ rest) =
      (scan false none rest).map (.plain (String.ofList (begun.reverse ++ text)) :: ·) := by
  induction h generalizing begun with
  | nil =>
    rw [List.nil_append, scan_of_endsWord hrest, List.append_nil]
    rfl
  | bare hc _ ih =>
    rw [List.cons_append, scan_false_bare hc, extend, Option.getD_some, ih, List.reverse_cons,
      List.append_assoc, List.singleton_append]
  | quoted hinner _ ih =>
    rw [List.cons_append, List.append_assoc, List.cons_append, scan_false_quote, Option.getD_some,
      scan_quoted hinner, ih, List.reverse_append, List.reverse_reverse, List.append_assoc]

/-- A word begins with its first character. -/
theorem scan_none_of_writes (h : Writes written text) (hne : written ≠ []) (rest : List Char) :
    scan false none (written ++ rest) = scan false (some []) (written ++ rest) := by
  cases h with
  | nil => exact absurd rfl hne
  | bare hc h => rw [List.cons_append, scan_false_bare hc, scan_false_bare hc]; rfl
  | quoted hinner h => rw [List.cons_append, scan_false_quote, scan_false_quote]; rfl

/-- **What the grammar admits is read as it says.** -/
theorem Spells.scan_eq_some (h : Spells cs words) : scan false none cs = some words := by
  induction h with
  | nil => rfl
  | blank hc _ ih => rw [scan_false_blank hc, ih]; rfl
  | write hnext _ ih => rw [scan_false_write _ hnext, ih]; rfl
  | append _ ih => rw [scan_false_append, ih]; rfl
  | plain hwrites hne hrest _ ih =>
    rw [scan_none_of_writes hwrites hne, scan_some_of_writes hwrites hrest, ih]
    rfl

/-! ## What is read is what the grammar admits -/

/-- The characters `front` have been read of a word that is not at its end. -/
inductive Begun : Bool → Option (List Char) → List Char → Prop where
  | outside : Begun false none []
  | bare {front text : List Char} : front ≠ [] → Writes front text →
    Begun false (some text.reverse) front
  | quoted {front text inner : List Char} : Writes front text → '"' ∉ inner →
    Begun true (some (text ++ inner).reverse) (front ++ '"' :: inner)

/-- A word that ends is a word of the grammar. -/
theorem Begun.spells (h : Begun false word front) (hrest : EndsWord rest)
    (hwords : Spells rest words) : Spells (front ++ rest) (finish word ++ words) := by
  cases h with
  | outside => exact hwords
  | bare hne hwrites =>
    rw [finish, List.reverse_reverse]
    exact .plain hwrites hne hrest hwords

theorem Begun.extend (h : Begun quoted word front)
    (hc : if quoted then c ≠ '"' else IsBare c) :
    Begun quoted (extend c word) (front ++ [c]) := by
  cases h with
  | outside => exact .bare (by simp) (.bare hc .nil)
  | @bare _ text hne hwrites =>
    rw [Word.extend, Option.getD_some, ← List.reverse_concat]
    exact .bare (by simp) (hwrites.trans (.bare hc .nil))
  | @quoted front text inner hwrites hinner =>
    rw [Word.extend, Option.getD_some, ← List.reverse_concat, List.append_assoc, List.append_assoc,
      List.cons_append]
    refine .quoted hwrites ?_
    simp only [if_true] at hc
    simp [hinner, hc.symm]

theorem Begun.close (h : Begun true word front) : Begun false word (front ++ ['"']) := by
  cases h with
  | @quoted front text inner hwrites hinner =>
    refine .bare (by simp) ?_
    have hspan : Writes ('"' :: (inner ++ ['"'])) inner := by
      simpa using Writes.quoted hinner .nil
    simpa using hwrites.trans hspan

theorem Begun.open (h : Begun false word front) :
    Begun true (some (word.getD [])) (front ++ ['"']) := by
  cases h with
  | outside => exact @Begun.quoted [] [] [] .nil (by simp)
  | @bare front text hne hwrites => simpa using @Begun.quoted front text [] hwrites (by simp)

/-- **What is read is what the grammar admits,** behind what was read before. -/
theorem Begun.spells_of_scan (h : Begun quoted word front)
    (hscan : scan quoted word cs = some words) : Spells (front ++ cs) words := by
  fun_induction scan quoted word cs generalizing front words with
  | case1 => cases hscan
  | case2 quoted word hquoted =>
    obtain rfl := Bool.eq_false_of_not_eq_true hquoted
    obtain rfl := Option.some.inj hscan
    have hend : EndsWord [] := by simp [EndsWord]
    simpa using h.spells hend .nil
  | case3 word cs ih =>
    rw [List.append_cons]
    exact ih h.close hscan
  | case4 word c cs hc ih =>
    rw [List.append_cons]
    exact ih (h.extend hc) hscan
  | case5 quoted word cs hquoted ih =>
    obtain rfl := Bool.eq_false_of_not_eq_true hquoted
    rw [List.append_cons]
    exact ih h.open hscan
  | case6 quoted word hquoted cs _ ih =>
    obtain rfl := Bool.eq_false_of_not_eq_true hquoted
    obtain ⟨more, hmore, rfl⟩ := Option.map_eq_some_iff.1 hscan
    exact h.spells (by simp [EndsWord]) (.append (ih .outside hmore))
  | case7 quoted word hquoted cs hnext _ ih =>
    obtain rfl := Bool.eq_false_of_not_eq_true hquoted
    obtain ⟨more, hmore, rfl⟩ := Option.map_eq_some_iff.1 hscan
    refine h.spells (by simp [EndsWord]) (.write (fun hhead => ?_) (ih .outside hmore))
    obtain ⟨tail, rfl⟩ := List.head?_eq_some_iff.1 hhead
    exact hnext tail rfl
  | case8 quoted word c cs hquoted _ _ hblank ih =>
    obtain rfl := Bool.eq_false_of_not_eq_true hquoted
    obtain ⟨more, hmore, rfl⟩ := Option.map_eq_some_iff.1 hscan
    exact h.spells (by simp [EndsWord, hblank]) (.blank hblank (ih .outside hmore))
  | case9 quoted word c cs hquoted hquote hmark hblank ih =>
    obtain rfl := Bool.eq_false_of_not_eq_true hquoted
    rw [List.append_cons]
    exact ih (h.extend ⟨hquote, hmark, Bool.eq_false_of_not_eq_true hblank⟩) hscan

/-- **The words of a line are those of the grammar.** -/
theorem ofLine?_eq_some_iff {line : String} :
    ofLine? line = some words ↔ Spells line.toList words :=
  ⟨fun h => Begun.outside.spells_of_scan h, Spells.scan_eq_some⟩

/-! ## Which lines have words -/

/-- From inside quotes an odd number of quotes leads out of them, from outside an even one. -/
theorem isSome_scan (quoted : Bool) (word : Option (List Char)) (cs : List Char) :
    (scan quoted word cs).isSome = true ↔ (quoted = true ↔ Odd (cs.count '"')) := by
  fun_induction scan quoted word cs with
  | case1 => simp
  | case2 quoted word hquoted => simp [hquoted]
  | case3 word cs ih => simp [ih, Nat.odd_add_one]
  | case4 word c cs hc ih => simp [ih, hc]
  | case5 quoted word cs hquoted ih => simp [ih, hquoted, Nat.odd_add_one]
  | case6 quoted word hquoted cs _ ih => simp [ih, hquoted]
  | case7 quoted word hquoted cs _ _ ih => simp [ih, hquoted]
  | case8 quoted word c cs hquoted hc _ _ ih => simp [ih, hquoted, hc]
  | case9 quoted word c cs hquoted hc _ _ ih => simp [ih, hquoted, hc]

/-- **A line has no words exactly if its quotes do not pair up.** -/
theorem ofLine?_eq_none_iff {line : String} :
    ofLine? line = none ↔ Odd (line.toList.count '"') := by
  rw [ofLine?, ← Option.not_isSome_iff_eq_none, isSome_scan]
  simp

/-! ## What the words say -/

/-- What the characters say to words: all of them but the quotes, and but the blanks outside quotes.
They begin inside quotes if `quoted`. -/
def substance (quoted : Bool) : List Char → List Char
  | [] => []
  | c :: cs =>
    if c = '"' then substance (!quoted) cs
    else if !quoted && Text.isBlank c then substance quoted cs
    else c :: substance quoted cs

theorem substance_quoted (h : '"' ∉ inner) (rest : List Char) :
    substance true (inner ++ '"' :: rest) = inner ++ substance false rest := by
  induction inner with
  | nil => simp [substance]
  | cons c cs ih =>
    rw [List.mem_cons, not_or] at h
    simp [substance, Ne.symm h.1, ih h.2]

theorem Writes.substance_append (h : Writes written text) (rest : List Char) :
    substance false (written ++ rest) = text ++ substance false rest := by
  induction h with
  | nil => rfl
  | bare hc _ ih =>
    obtain ⟨hquote, -, hblank⟩ := hc
    simp [substance, hquote, hblank, ih]
  | quoted hinner _ ih => simp [substance, substance_quoted hinner, ih]

/-- **The words say what the line says,** one after the other and nothing else. -/
theorem Spells.flatMap_text (h : Spells cs words) :
    (words.flatMap fun word => word.text.toList) = substance false cs := by
  have hmark : Text.isBlank '>' = false := by decide
  induction h with
  | nil => rfl
  | blank hc _ ih => simp [substance, (ne_of_isBlank hc).1, hc, ih]
  | write _ _ ih =>
    rw [List.flatMap_cons, ih]
    simp [text, operatorText, substance, hmark]
  | append _ ih =>
    rw [List.flatMap_cons, ih]
    simp [text, operatorText, substance, hmark]
  | plain hwrites _ _ _ ih =>
    rw [List.flatMap_cons, ih, hwrites.substance_append]
    simp [text]

end Word
end EditorShell

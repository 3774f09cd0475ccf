import EditorShell.Proofs.Line.Arrangement

/-!
# An alias stands for its text

Where a blank stands, a line that has words can be cut: what is before it and what is after it fall
into words each for itself (`Spells.append_blank`, `ofLine?_append_space`). So it makes no
difference whether the text of an alias is put in for its name before the line is read or after, and
a line that begins with an alias is the line that begins with its text, read without any aliases
(`parse_alias`). Whatever words the text has are taken as they are: one that is itself an alias
stands for itself, and an operator redirects.
-/

namespace EditorShell
namespace Word

variable {cs ds name : List Char} {words more : List Word} {c : Char} {left right : String}

/-! ## Lines in two parts -/

/-- A word that ends does not go on behind a blank. -/
theorem EndsWord.append_blank {rest : List Char} (h : EndsWord rest) (hc : Text.isBlank c = true)
    (ds : List Char) : EndsWord (rest ++ c :: ds) := by
  cases rest with
  | nil => simp [EndsWord, hc]
  | cons d rest => exact h

/-- **Before and after a blank the words are those of either part.** -/
theorem Spells.append_blank (h : Spells cs words) (hc : Text.isBlank c = true)
    (hmore : Spells ds more) : Spells (cs ++ c :: ds) (words ++ more) := by
  induction h with
  | nil => exact .blank hc hmore
  | blank hd _ ih => exact .blank hd ih
  | @write cs words hnext _ ih =>
    refine .write ?_ ih
    -- the blank may be the next character, and it lengthens no operator
    cases cs with
    | nil => simpa using (ne_of_isBlank hc).2
    | cons d cs => exact hnext
  | append _ ih => exact .append ih
  | plain hwrites hne hrest _ ih =>
    rw [List.append_assoc]
    exact .plain hwrites hne (hrest.append_blank hc _) ih

/-- **A line is read in two parts,** if its first part has words. -/
theorem ofLine?_append_space (h : ofLine? left = some words) (right : String) :
    ofLine? (left ++ " " ++ right) = (ofLine? right).map (words ++ ·) := by
  have hline : (left ++ " " ++ right).toList = left.toList ++ ' ' :: right.toList := by simp
  cases hright : ofLine? right with
  | some more =>
    have hspells : Spells (left.toList ++ ' ' :: right.toList) (words ++ more) :=
      (ofLine?_eq_some_iff.1 h).append_blank (by decide) (ofLine?_eq_some_iff.1 hright)
    exact ofLine?_eq_some_iff.2 (hline ▸ hspells)
  | none =>
    have heven : Even (left.toList.count '"') := by
      rw [← Nat.not_odd_iff_even, ← ofLine?_eq_none_iff, h]
      simp
    rw [ofLine?_eq_none_iff] at hright
    rw [Option.map_none, ofLine?_eq_none_iff, hline, List.count_append,
      List.count_cons_of_ne (by decide)]
    exact heven.add_odd hright

/-- Bare characters write themselves. -/
theorem writes_of_forall_isBare (h : ∀ c ∈ name, IsBare c) : Writes name name := by
  induction name with
  | nil => exact .nil
  | cons c cs ih =>
    obtain ⟨hc, hcs⟩ := List.forall_mem_cons.1 h
    exact .bare hc (ih hcs)

theorem ofLine?_of_forall_isBare {name : String} (hne : name ≠ "")
    (h : ∀ c ∈ name.toList, IsBare c) : ofLine? name = some [.plain name] := by
  have hspells : Spells (name.toList ++ []) [.plain (String.ofList name.toList)] :=
    .plain (writes_of_forall_isBare h) (by simpa using hne) (by simp [EndsWord]) .nil
  rw [List.append_nil, String.ofList_toList] at hspells
  exact ofLine?_eq_some_iff.2 hspells

end Word

namespace CommandLine

open Word

variable {aliases environment : Table String} {written name text : String} {word : Word}
  {words : List Word}

/-- What a line means that begins with an alias, however the alias is written. -/
theorem parse_of_alias (hwritten : ofLine? written = some [word])
    (halias : aliases.get? word.text = some text) (htext : ofLine? text = some words)
    (rest : String) :
    parse aliases environment (written ++ " " ++ rest) =
      match ofLine? rest with
      | none => .error .openQuote
      | some more => ofWords ((words ++ more).map (Word.expand environment)) := by
  rw [parse, ofLine?_append_space hwritten]
  cases ofLine? rest with
  | none => rfl
  | some more => simp [expandAlias?, halias, htext]

/-- What a line means whose first part has words, without aliases. -/
theorem parse_empty_append_space (htext : ofLine? text = some words) (rest : String) :
    parse .empty environment (text ++ " " ++ rest) =
      match ofLine? rest with
      | none => .error .openQuote
      | some more => ofWords ((words ++ more).map (Word.expand environment)) := by
  rw [parse_eq, template_empty, ofLine?_append_space htext]
  cases ofLine? rest with
  | none => rfl
  | some more => exact (ofWords_map_expand environment (words ++ more)).symm

/-- **An alias stands for its text, once.** A line that begins with an alias is read as the line
that begins with its text instead is read when there are no aliases, whatever follows: both are the
same command line or fail with the same error. The words of the text come first, as they are, and
behind them come the words of what follows; so none of them is taken for an alias again, and
operators among them redirect. -/
theorem parse_alias (aliases environment : Table String) {name text : String} (rest : String)
    (hne : name ≠ "") (hname : ∀ c ∈ name.toList, IsBare c)
    (halias : aliases.get? name = some text) (heven : Even (text.toList.count '"')) :
    parse aliases environment (name ++ " " ++ rest) =
        parse .empty environment (text ++ " " ++ rest) ∧
      ∃ words, ofLine? text = some words ∧
        parse aliases environment (name ++ " " ++ rest) =
          match ofLine? rest with
          | none => .error .openQuote
          | some more => ofWords ((words ++ more).map (Word.expand environment)) := by
  obtain ⟨words, htext⟩ : ∃ words, ofLine? text = some words := by
    rwa [← Option.ne_none_iff_exists', Ne, ofLine?_eq_none_iff, Nat.not_odd_iff_even]
  have hwritten : ofLine? name = some [.plain name] := ofLine?_of_forall_isBare hne hname
  exact ⟨(parse_of_alias hwritten halias htext rest).trans
    (parse_empty_append_space htext rest).symm, words, htext,
    parse_of_alias hwritten halias htext rest⟩

/-- The alias `a` stands for a text that begins with `a`, redirects, and names the alias `b`. What
follows is read behind the text, and it may leave a quote open. -/
theorem parse_alias_self :
    parse (Table.ofList [("a", "a > \"f g\" b"), ("b", "ls")]) .empty "a c" =
        .ok ⟨some "a", ["b", "c"], some ⟨"f g", false⟩⟩ ∧
      parse (Table.ofList [("a", "a > \"f g\" b"), ("b", "ls")]) .empty "a \"c" =
        .error .openQuote := by
  have hname : ∀ c ∈ "a".toList, IsBare c := by
    rw [show "a".toList = ['a'] from rfl, List.forall_mem_singleton]
    decide
  have halias : (Table.ofList [("a", "a > \"f g\" b"), ("b", "ls")]).get? "a" =
      some "a > \"f g\" b" := by decide +kernel
  have heven : Even ("a > \"f g\" b".toList.count '"') := by decide +kernel
  have hline := parse_alias (Table.ofList [("a", "a > \"f g\" b"), ("b", "ls")]) .empty "c"
    (by decide) hname halias heven
  have hopen := parse_alias (Table.ofList [("a", "a > \"f g\" b"), ("b", "ls")]) .empty "\"c"
    (by decide) hname halias heven
  exact ⟨hline.1.trans (by decide +kernel), hopen.1.trans (by decide +kernel)⟩

end CommandLine
end EditorShell

import EditorShell.Text.Basic

/-!
# Lines

A line ends at one of ten line-breaking characters or at the pair carriage return, line feed. The
last line need not end with a break, and an empty text has no line. `pieces` keeps the breaks, so
that its pieces add up to the text (`flatten_pieces`); `lines` drops them, and gives back the texts
that were joined by line feeds (`lines_joinLines`).
-/

namespace EditorShell
namespace Text

/-- A character that ends a line. -/
def isLineBreak (c : Char) : Bool :=
  let n := c.toNat
  (0x0A ≤ n && n ≤ 0x0D) || (0x1C ≤ n && n ≤ 0x1E) || n == 0x85 || n == 0x2028 || n == 0x2029

/-- The lines of a text, each with the break that ends it. -/
def pieces : List Char → List (List Char)
  | [] => []
  | '\r' :: '\n' :: cs => ['\r', '\n'] :: pieces cs
  | c :: cs =>
    if isLineBreak c then [c] :: pieces cs
    else match pieces cs with
      | [] => [[c]]
      | line :: rest => (c :: line) :: rest

/-- Nothing is lost and nothing is added by cutting a text into lines. -/
@[simp] theorem flatten_pieces (cs : List Char) : (pieces cs).flatten = cs := by
  fun_induction pieces cs <;> simp_all

/-- A character that is no break belongs to the line that goes on after it. -/
theorem pieces_cons {c : Char} (h : isLineBreak c = false) (cs : List Char) :
    pieces (c :: cs) = match pieces cs with
      | [] => [[c]]
      | line :: rest => (c :: line) :: rest := by
  have hne : c ≠ '\r' := by
    rintro rfl
    exact absurd h (by decide)
  rw [pieces.eq_3 c cs fun _ hc => absurd hc hne, h]
  rfl

/-- Characters that hold no break are one line. -/
theorem pieces_unbroken {line : List Char} (h : ∀ c ∈ line, isLineBreak c = false)
    (hne : line ≠ []) : pieces line = [line] := by
  induction line with
  | nil => exact absurd rfl hne
  | cons c line ih =>
    rw [pieces_cons (h c (by simp))]
    by_cases hnil : line = []
    · simp [hnil, pieces]
    · simp [ih (fun d hd => h d (by simp [hd])) hnil]

/-- A line feed ends the line before it. -/
theorem pieces_append_newline {line : List Char} (h : ∀ c ∈ line, isLineBreak c = false)
    (cs : List Char) : pieces (line ++ '\n' :: cs) = (line ++ ['\n']) :: pieces cs := by
  induction line with
  | nil =>
    rw [List.nil_append, pieces.eq_3 _ _ fun _ hc => absurd hc (by decide), if_pos (by decide)]
    rfl
  | cons c line ih =>
    rw [List.cons_append, pieces_cons (h c (by simp)), ih fun d hd => h d (by simp [hd])]
    rfl

/-- The lines of a text without their breaks. -/
def lines (s : String) : List String :=
  (pieces s.toList).map fun line => String.ofList (line.takeWhile (!isLineBreak ·))

/-- Texts that hold no break are the lines of what they are joined to; an empty one at the end would
be lost. -/
theorem lines_joinLines {texts : List String} (hne : ∀ s ∈ texts, s ≠ "")
    (h : ∀ s ∈ texts, ∀ c ∈ s.toList, isLineBreak c = false) : lines (joinLines texts) = texts := by
  induction texts with
  | nil => rfl
  | cons s texts ih =>
    have hs := h s (by simp)
    have hkeep (rest : List Char) : (s.toList ++ rest).takeWhile (!isLineBreak ·) =
        s.toList ++ rest.takeWhile (!isLineBreak ·) :=
      List.takeWhile_append_of_pos fun c hc => by simp [hs c hc]
    have ih := ih (fun t ht => hne t (by simp [ht])) fun t ht => h t (by simp [ht])
    cases texts with
    | nil =>
      have hnil : s.toList ≠ [] := by simpa using hne s (by simp)
      simpa [joinLines, lines, pieces_unbroken hs hnil] using congrArg String.ofList (hkeep [])
    | cons t texts =>
      have hbreak : isLineBreak '\n' = true := by decide
      have hjoin : (joinLines (s :: t :: texts)).toList =
          s.toList ++ '\n' :: (joinLines (t :: texts)).toList := by
        simp [joinLines, String.intercalate_cons_cons]
      rw [lines, hjoin, pieces_append_newline hs, List.map_cons, ← lines, ih]
      simp [hkeep, hbreak]

end Text
end EditorShell

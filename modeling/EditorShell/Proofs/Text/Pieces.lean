import EditorShell.Text.Lines

/-!
# Lines of a part of a text

A text that is cut between two of its lines has on each side the lines that it has there as a whole
(`pieces_take`, `pieces_drop`). So a part that is made of whole lines can be cut into lines again,
and no such cut goes through a carriage return and its line feed (`not_partsPair`).
-/

namespace EditorShell
namespace Text

variable {c : Char} {cs before after : List Char} {k : Nat}

/-- A carriage return stands at the end of `before`, and at the start of `after` the line feed that
belongs to it. -/
def PartsPair (before after : List Char) : Prop :=
  before.getLast? = some '\r' ∧ after.head? = some '\n'

/-- The lines before and after a cut make up the text. -/
theorem flatten_take_append_drop (cs : List Char) (k : Nat) :
    ((pieces cs).take k).flatten ++ ((pieces cs).drop k).flatten = cs := by
  rw [← List.flatten_append, List.take_append_drop, flatten_pieces]

/-- What begins the lines before a cut begins the text. -/
theorem head?_of_head?_take (h : ((pieces cs).take k).flatten.head? = some c) :
    cs.head? = some c := by
  rw [← flatten_take_append_drop cs k, List.head?_append, h, Option.some_or]

/-- A break that has no line feed to take along is a line of its own. -/
theorem pieces_cons_break (h : isLineBreak c = true) (hpair : ¬PartsPair [c] cs) :
    pieces (c :: cs) = [c] :: pieces cs := by
  have hnot : ∀ rest, c = '\r' → cs = '\n' :: rest → False := by
    rintro rest rfl rfl
    exact hpair ⟨rfl, rfl⟩
  rw [pieces.eq_3 c cs hnot, if_pos h]

/-- Without its first line a text has the other ones. -/
theorem pieces_tail (cs : List Char) : pieces (pieces cs).tail.flatten = (pieces cs).tail := by
  fun_induction pieces cs with
  | case1 => rfl
  | case2 cs ih => rw [List.tail_cons, flatten_pieces]
  | case3 c cs hnot hbreak ih => rw [List.tail_cons, flatten_pieces]
  | case4 c cs hnot hbreak hnil ih => rfl
  | case5 c cs hnot hbreak line rest hrest ih => simpa only [hrest, List.tail_cons] using ih

/-- **After a cut between two lines** stand the lines that the whole text has there. -/
theorem pieces_drop (cs : List Char) (k : Nat) :
    pieces ((pieces cs).drop k).flatten = (pieces cs).drop k := by
  induction k with
  | zero => rw [List.drop_zero, flatten_pieces]
  | succ k ih => rw [← List.tail_drop, ← ih, pieces_tail]

/-- **Before a cut between two lines** stand the lines that the whole text has there. -/
theorem pieces_take (cs : List Char) (k : Nat) :
    pieces ((pieces cs).take k).flatten = (pieces cs).take k := by
  fun_induction pieces cs generalizing k with
  | case1 => rw [List.take_nil, List.flatten_nil, pieces]
  | case2 cs ih =>
    cases k with
    | zero => rfl
    | succ k => exact congrArg (['\r', '\n'] :: ·) (ih k)
  | case3 c cs hnot hbreak ih =>
    cases k with
    | zero => rfl
    | succ k =>
      -- the text before the cut begins like the whole one, so the break is alone there too
      have hpair : ¬PartsPair [c] ((pieces cs).take k).flatten := by
        rintro ⟨hc, hhead⟩
        obtain ⟨rest, hrest⟩ := List.head?_eq_some_iff.1 (head?_of_head?_take hhead)
        exact hnot rest (by simpa using hc) hrest
      exact (pieces_cons_break hbreak hpair).trans (congrArg ([c] :: ·) (ih k))
  | case4 c cs hnot hbreak hnil ih =>
    cases k with
    | zero => rfl
    | succ k =>
      rw [List.take_succ_cons, List.take_nil, List.flatten_singleton]
      exact pieces_cons (by simpa using hbreak) []
  | case5 c cs hnot hbreak line rest hrest ih =>
    cases k with
    | zero => rfl
    | succ k =>
      have hline := ih (k + 1)
      rw [hrest, List.take_succ_cons] at hline
      rw [List.take_succ_cons, List.flatten_cons, List.cons_append, ← List.flatten_cons,
        pieces_cons (by simpa using hbreak), hline]

/-! ## Pairs -/

theorem not_partsPair_nil (after : List Char) : ¬PartsPair [] after := fun h => by
  cases h.1

/-- Whether a pair is parted depends on the last character before the cut alone. -/
theorem PartsPair.of_cons (h : PartsPair (c :: before) after) :
    PartsPair before after ∨ before = [] ∧ PartsPair [c] after := by
  cases before with
  | nil => exact .inr ⟨rfl, h⟩
  | cons b before => exact .inl ⟨by rw [← h.1, List.getLast?_cons_cons], h.2⟩

/-- **No cut between two lines goes through a carriage return and its line feed.** -/
theorem not_partsPair (cs : List Char) (k : Nat) :
    ¬PartsPair ((pieces cs).take k).flatten ((pieces cs).drop k).flatten := by
  fun_induction pieces cs generalizing k with
  | case1 => simpa using not_partsPair_nil []
  | case2 cs ih =>
    cases k with
    | zero => exact not_partsPair_nil _
    | succ k =>
      intro h
      rcases h.of_cons with h | ⟨hnil, -⟩
      · rcases h.of_cons with h | ⟨-, hfeed⟩
        · exact ih k h
        · exact absurd hfeed.1 (by decide)
      · cases hnil
  | case3 c cs hnot hbreak ih =>
    cases k with
    | zero => exact not_partsPair_nil _
    | succ k =>
      intro h
      rcases h.of_cons with h | ⟨hnil, hc, hhead⟩
      · exact ih k h
      · have hcs : ((pieces cs).drop k).flatten = cs := by
          have htext := flatten_take_append_drop cs k
          rwa [show ((pieces cs).take k).flatten = [] from hnil, List.nil_append] at htext
        obtain ⟨rest, hrest⟩ := List.head?_eq_some_iff.1 (hcs ▸ hhead)
        exact hnot rest (by simpa using hc) hrest
  | case4 c cs hnot hbreak hnil ih =>
    cases k with
    | zero => exact not_partsPair_nil _
    | succ k => simp [PartsPair]
  | case5 c cs hnot hbreak line rest hrest ih =>
    cases k with
    | zero => exact not_partsPair_nil _
    | succ k =>
      intro h
      rcases h.of_cons with h | ⟨-, hc, -⟩
      · exact ih (k + 1) (by rwa [hrest])
      · obtain rfl : c = '\r' := by simpa using hc
        exact hbreak (by decide)

end Text
end EditorShell

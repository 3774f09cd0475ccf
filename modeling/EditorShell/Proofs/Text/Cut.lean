import EditorShell.Text.Basic
import Mathlib.Data.String.Basic

/-!
# Where a text is cut

A text that is put together from two parts with a character between them is cut into these parts
again: at the first place of the character if the part before it is free of it, and at the last
place if the part after it is.
-/

namespace EditorShell
namespace Text

variable {c : Char} {before after : List Char} {s left right : String}

/-! ## At the first place -/

theorem cutFirst_append (h : c ∉ before) (after : List Char) :
    cutFirst c (before ++ c :: after) = (before, some after) := by
  induction before with
  | nil => simp [cutFirst]
  | cons b before ih =>
    rw [List.mem_cons, not_or] at h
    rw [List.cons_append, cutFirst, if_neg (Ne.symm h.1), ih h.2]

theorem partition_eq (hs : s.toList = left.toList ++ c :: right.toList) (h : c ∉ left.toList) :
    partition c s = (left, some right) := by
  simp [partition, hs, cutFirst_append h]

/-! ## At the last place -/

theorem cutLast?_eq_none_iff : cutLast? c before = none ↔ c ∉ before := by
  induction before with
  | nil => simp [cutLast?]
  | cons b before ih =>
    rw [cutLast?, List.mem_cons, not_or, ← ih]
    cases cutLast? c before <;> simp [eq_comm]

theorem cutLast?_append (before : List Char) (h : c ∉ after) :
    cutLast? c (before ++ c :: after) = some (before, after) := by
  induction before with
  | nil => simp [cutLast?, cutLast?_eq_none_iff.2 h]
  | cons b before ih => simp [cutLast?, ih]

theorem partitionLast?_eq_some_iff :
    partitionLast? c s = some (left, right) ↔
      s.toList = left.toList ++ c :: right.toList ∧ c ∉ right.toList := by
  constructor
  · intro h
    obtain ⟨parts, hcut, hparts⟩ := Option.map_eq_some_iff.1 h
    obtain ⟨rfl, rfl⟩ := Prod.mk.inj hparts
    obtain ⟨htext, hright⟩ := append_of_cutLast? hcut
    simpa using ⟨htext.symm, hright⟩
  · rintro ⟨htext, hright⟩
    rw [partitionLast?, htext, cutLast?_append _ hright]
    simp

theorem partitionLast?_eq_none_iff : partitionLast? c s = none ↔ c ∉ s.toList := by
  rw [partitionLast?, Option.map_eq_none_iff, cutLast?_eq_none_iff]

end Text
end EditorShell

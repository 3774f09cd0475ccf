import EditorShell.Proofs.Path.Below
import Mathlib.Data.List.Lex

/-!
# Paths relative to a directory

Below a directory are its children and what lies below those, so a path below it begins with the
name of one child (`exists_child_of_isBelow`, `relative_of_isWithin_child`). In the lexicographic
order of segments a directory comes before all that it holds, what one child holds comes before
what a later child holds, and the children of one directory are in the order of their names.
-/

namespace EditorShell
namespace Path

variable {p q a b d n : String}

/-- The segments of `path` after those of `directory`. -/
def relative (directory path : String) : List String :=
  (segments path).drop (segments directory).length

theorem segments_child (hd : IsCanonical d) (hn : IsSegment n) :
    segments (child d n) = segments d ++ [n] := by
  obtain ⟨s, hs, rfl⟩ := hd
  rw [child_ofSegments hs, segments_ofSegments hs,
    segments_ofSegments (by simpa [or_imp, forall_and] using ⟨hs, hn⟩)]

theorem isBelow_of_isWithin_child (hp : IsCanonical p) (hd : IsCanonical d) (hn : IsSegment n)
    (h : isWithin p (child d n) = true) : isBelow p d = true := by
  rcases isWithin_iff.1 h with rfl | h
  · exact isBelow_child_self hd hn
  · exact isBelow_trans hp (isCanonical_child hd hn) hd h (isBelow_child_self hd hn)

/-- What lies below a directory lies within one of its children. -/
theorem exists_child_of_isBelow (hp : IsCanonical p) (hd : IsCanonical d)
    (h : isBelow p d = true) : ∃ n, IsSegment n ∧ isWithin p (child d n) = true := by
  induction p, hp using IsCanonical.induction with
  | root =>
    rw [isBelow_root_left hd] at h
    cases h
  | child e n he hn ih =>
    rw [isBelow_child he hn hd, isWithin_iff] at h
    rcases h with rfl | h
    · exact ⟨n, hn, isWithin_self _⟩
    · obtain ⟨m, hm, hin⟩ := ih h
      have hbelow : isBelow (child e n) (child d m) = true := by
        rwa [isBelow_child he hn (isCanonical_child hd hm)]
      exact ⟨m, hm, isWithin_of_isBelow hbelow⟩

/-! ## Relative paths -/

@[simp] theorem relative_self (p : String) : relative p p = [] := by simp [relative]

theorem segments_eq_append_relative (hp : IsCanonical p) (hd : IsCanonical d)
    (h : isWithin p d = true) : segments p = segments d ++ relative d p := by
  obtain ⟨rest, hrest⟩ := (isWithin_iff_segments hp hd).1 h
  simp [relative, ← hrest]

/-- Within a child the relative path begins with the name of the child. -/
theorem relative_of_isWithin_child (hp : IsCanonical p) (hd : IsCanonical d) (hn : IsSegment n)
    (h : isWithin p (child d n) = true) : relative d p = n :: relative (child d n) p := by
  have hsegments := segments_eq_append_relative hp (isCanonical_child hd hn) h
  rw [segments_child hd hn, List.append_assoc] at hsegments
  rw [relative, hsegments]
  simp

/-! ## The order of segments -/

/-- A directory comes before what it holds. -/
theorem segments_lt_of_isBelow (hp : IsCanonical p) (hd : IsCanonical d)
    (h : isBelow p d = true) : segments d < segments p := by
  obtain ⟨n, hn, hin⟩ := exists_child_of_isBelow hp hd h
  have hwithin := isWithin_of_isBelow h
  have hlex : List.Lex (· < ·) [] (n :: relative (child d n) p) := .nil
  rw [segments_eq_append_relative hp hd hwithin, relative_of_isWithin_child hp hd hn hin]
  have happend := List.Lex.append_left _ hlex (segments d)
  rwa [List.append_nil] at happend

/-- What one child holds comes before what a child with a later name holds. -/
theorem segments_lt_of_isWithin_child (hp : IsCanonical p) (hq : IsCanonical q)
    (hd : IsCanonical d) (ha : IsSegment a) (hb : IsSegment b)
    (hpa : isWithin p (child d a) = true) (hqb : isWithin q (child d b) = true) (hab : a < b) :
    segments p < segments q := by
  rw [segments_eq_append_relative hp (isCanonical_child hd ha) hpa,
    segments_eq_append_relative hq (isCanonical_child hd hb) hqb, segments_child hd ha,
    segments_child hd hb, List.append_assoc, List.append_assoc]
  exact List.Lex.append_left (· < ·) (List.Lex.rel hab) (segments d)

/-- Children of one directory are in the order of their names. -/
theorem name_lt_name (hp : IsCanonical p) (hq : IsCanonical q) (hp' : p ≠ root) (hq' : q ≠ root)
    (hparent : parent p = parent q) (h : segments p < segments q) : name p < name q := by
  have hd := isCanonical_parent hp
  have hpn := isSegment_name hp hp'
  have hqn := isSegment_name hq hq'
  rw [← child_parent_name hp hp', ← child_parent_name hq hq', ← hparent] at h
  by_contra hnot
  rcases (not_lt.1 hnot).lt_or_eq with hlt | heq
  · exact lt_asymm h (segments_lt_of_isWithin_child (isCanonical_child hd hqn)
      (isCanonical_child hd hpn) hd hqn hpn (isWithin_self _) (isWithin_self _) hlt)
  · exact lt_irrefl _ (heq ▸ h)

end Path
end EditorShell

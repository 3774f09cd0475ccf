import EditorShell.Proofs.Path.Below
import Mathlib.Data.List.Infix

/-!
# What begins with a directory lies within it

Whether a path lies within a directory other than the root is a matter of prefixes: with a slash
after both, the directory is the beginning of the path (`isWithin_iff_isPrefix`). So the order of
paths does not depend on their being canonical, and the operations of a store, which cut and join
texts, stay within a directory on whatever texts they are called with: parents
(`isWithin_parent_of_isBelow`), ancestors (`mem_ancestors_of_isBelow`) and the places of what moves
(`isWithin_moved_of_ne_root`).
-/

namespace EditorShell
namespace Path

variable {p q a b d : String}

/-! ## Prefixes -/

theorem isBelow_iff_isPrefix (hd : d ≠ root) :
    isBelow p d = true ↔ d.toList ++ ['/'] <+: p.toList := by
  have hslash : (d ++ "/").toList = d.toList ++ ['/'] := String.toList_append ..
  unfold isBelow
  split_ifs with heq
  · subst heq
    constructor
    · intro h
      cases h
    · intro h
      have hlen := h.length_le
      rw [List.length_append, List.length_singleton] at hlen
      omega
  · rw [Text.startsWith_iff, hslash]

/-- **A path within a directory begins with it,** once both have a slash at their end. -/
theorem isWithin_iff_isPrefix (hd : d ≠ root) :
    isWithin p d = true ↔ d.toList ++ ['/'] <+: p.toList ++ ['/'] := by
  rw [isWithin_iff, isBelow_iff_isPrefix hd, List.prefix_concat_iff]
  constructor
  · rintro (rfl | h)
    · exact .inl rfl
    · exact .inr h
  · rintro (h | h)
    · have heq : d.toList = p.toList := List.append_cancel_right h
      exact .inl (String.toList_injective heq.symm)
    · exact .inr h

theorem isBelow_eq_false (h : isWithin p d = false) : isBelow p d = false :=
  (Bool.or_eq_false_iff.1 h).2

theorem ne_of_isBelow (hp : isBelow p d = false) (hq : isBelow q d = true) : p ≠ q := by
  rintro rfl
  rw [hq] at hp
  cases hp

theorem ne_root_of_isBelow (hd : IsCanonical d) (h : isBelow p d = true) : p ≠ root := by
  rintro rfl
  rw [isBelow_root_left hd] at h
  cases h

theorem isBelow_of_isBelow_of_isWithin (hd : d ≠ root) (hq : q ≠ root)
    (hpq : isBelow p q = true) (hqd : isWithin q d = true) : isBelow p d = true := by
  rw [isBelow_iff_isPrefix hq] at hpq
  rw [isWithin_iff_isPrefix hd] at hqd
  rw [isBelow_iff_isPrefix hd]
  exact hqd.trans hpq

theorem isBelow_of_isWithin_of_isBelow (hd : d ≠ root) (hq : q ≠ root)
    (hpq : isWithin p q = true) (hqd : isBelow q d = true) : isBelow p d = true := by
  rcases isWithin_iff.1 hpq with rfl | hbelow
  · exact hqd
  · exact isBelow_of_isBelow_of_isWithin hd hq hbelow (isWithin_of_isBelow hqd)

/-- Of two directories that hold the same path one holds the other. -/
theorem isWithin_or_isWithin (ha : a ≠ root) (hb : b ≠ root) (hpa : isWithin p a = true)
    (hpb : isWithin p b = true) : isWithin a b = true ∨ isWithin b a = true := by
  rw [isWithin_iff_isPrefix ha] at hpa
  rw [isWithin_iff_isPrefix hb] at hpb
  rw [isWithin_iff_isPrefix hb, isWithin_iff_isPrefix ha]
  exact (List.prefix_or_prefix_of_prefix hpa hpb).symm

/-! ## Parents, ancestors and places -/

section

variable (hcanonical : IsCanonical d) (hd : d ≠ root)
include hcanonical hd

omit hd in
theorem ne_empty : d ≠ "" := by
  obtain ⟨s, -, rfl⟩ := hcanonical
  intro h
  have hlen := congrArg (fun t : String => t.toList.length) h
  simp [ofSegments, root] at hlen

/-- The parent of what lies below a directory lies within it. -/
theorem isWithin_parent_of_isBelow (h : isBelow p d = true) : isWithin (parent p) d = true := by
  have hroot := ne_root_of_isBelow hcanonical h
  obtain ⟨rest, hrest⟩ := (isBelow_iff_isPrefix hd).1 h
  rw [parent, if_neg hroot, Text.partitionLast?]
  -- the last slash of the path is the one after `d` or a later one
  by_cases hslash : '/' ∈ rest
  · obtain ⟨after, before, hcut, hafter⟩ := List.eq_append_cons_of_mem (List.mem_reverse.2 hslash)
    have htext : p.toList = (d.toList ++ '/' :: before.reverse) ++ '/' :: after.reverse := by
      rw [← hrest, ← List.reverse_reverse rest, hcut]
      simp
    rw [htext, Text.cutLast?_append _ (by simpa using hafter)]
    have hne : String.ofList (d.toList ++ '/' :: before.reverse) ≠ "" := by
      intro he
      have hlen := congrArg (fun t : String => t.toList.length) he
      simp at hlen
    simp only [Option.map_some, if_neg hne]
    refine isWithin_of_isBelow ((isBelow_iff_isPrefix hd).2 ?_)
    simp
  · have htext : p.toList = d.toList ++ '/' :: rest := by
      rw [← hrest]
      simp
    rw [htext, Text.cutLast?_append _ hslash]
    simp [ne_empty hcanonical]

/-- What is above a path below a directory is within the directory or above it. -/
theorem mem_ancestors_of_isBelow (h : isBelow p d = true) (ha : a ∈ ancestors p) :
    isWithin a d = true ∨ a ∈ ancestors d := by
  induction p using ancestors.induct with
  | case1 => exact absurd rfl (ne_root_of_isBelow hcanonical h)
  | case2 p hroot ih =>
    have hparent := isWithin_parent_of_isBelow hcanonical hd h
    rw [ancestors, if_neg hroot, List.mem_append, List.mem_singleton] at ha
    rcases ha with ha | rfl
    · rcases isWithin_iff.1 hparent with heq | hbelow
      · exact .inr (heq ▸ ha)
      · exact ih hbelow ha
    · exact .inl hparent

end

/-- What moves along with a directory arrives within the target. -/
theorem isWithin_moved_of_ne_root (ha : a ≠ root) (hb : b ≠ root) (h : isWithin p a = true) :
    isWithin (moved a b p) b = true := by
  rcases isWithin_iff.1 h with rfl | hbelow
  · rw [moved_self, isWithin_self]
  · obtain ⟨rest, hrest⟩ := (isBelow_iff_isPrefix ha).1 hbelow
    have hdrop : (Text.drop a.length p).toList = '/' :: rest := by
      rw [Text.toList_drop, ← hrest, ← String.length_toList]
      simp
    have hne : p ≠ a := fun he => by simp [he] at hbelow
    refine isWithin_of_isBelow ((isBelow_iff_isPrefix hb).2 ⟨rest, ?_⟩)
    simp [moved, hne, ha, hb, hdrop]

end Path
end EditorShell

import EditorShell.Path
import EditorShell.Proofs.Text.Cut
import Mathlib.Data.List.Induction

/-!
# Canonical paths are lists of segments

`Path.ofSegments` writes a list of segments as a canonical path. `segments_ofSegments` reads the
list back, so the two are one and the same, and each function on paths is a function on lists:
`parent` drops the last segment, `name` is the last segment, `child` adds one at the end, and
`moved` replaces a first part of the list. The proofs work on `spell`, the characters of the
segments with a slash before each of them, which unlike the path itself has no exception for the
empty list.
-/

namespace EditorShell
namespace Path

/-- The characters of the segments, each after a slash. -/
def spell (segments : List String) : List Char := segments.flatMap fun s => '/' :: s.toList

@[simp] theorem spell_nil : spell [] = [] := rfl

@[simp] theorem spell_append (s t : List String) : spell (s ++ t) = spell s ++ spell t := by
  simp [spell]

@[simp] theorem spell_singleton (a : String) : spell [a] = '/' :: a.toList := by simp [spell]

theorem spell_eq_nil_iff {s : List String} : spell s = [] ↔ s = [] := by
  cases s <;> simp [spell]

@[simp] theorem toList_root : root.toList = ['/'] := rfl

@[simp] theorem ofSegments_nil : ofSegments [] = root := by simp [ofSegments]

/-- The path is spelled by its segments, the root excepted. -/
theorem toList_ofSegments {s : List String} (h : s ≠ []) : (ofSegments s).toList = spell s := by
  induction s with
  | nil => exact absurd rfl h
  | cons a s ih =>
    by_cases hs : s = []
    · simp [hs, ofSegments, spell]
    · have hspell : spell (a :: s) = '/' :: a.toList ++ spell s := by simp [spell]
      rw [hspell, ← ih hs]
      simp [ofSegments, String.intercalate_cons_of_ne_nil hs]

theorem ofList_spell {s : List String} (h : s ≠ []) : String.ofList (spell s) = ofSegments s := by
  rw [← toList_ofSegments h, String.ofList_toList]

/-! ## Reading the segments back -/

/-- Cutting at slashes gives the segments back, after one empty piece. -/
theorem splitOn_spell {s : List String} (h : ∀ a ∈ s, '/' ∉ a.toList) :
    (spell s).splitOn '/' = [] :: s.map String.toList := by
  induction s using List.reverseRecOn with
  | nil => simp
  | append_singleton s a ih =>
    have ha : '/' ∉ a.toList := h a (by simp)
    rw [spell_append, spell_singleton, List.splitOn_append_cons_self,
      ih fun b hb => h b (by simp [hb]), List.splitOn_eq_singleton ha]
    simp

theorem IsSegment.slash_not_mem {a : String} (h : IsSegment a) : '/' ∉ a.toList := h.2.2.2

/-- **The segments of a path are those it was written from.** -/
theorem segments_ofSegments {s : List String} (h : ∀ a ∈ s, IsSegment a) :
    segments (ofSegments s) = s := by
  by_cases hs : s = []
  · subst hs
    decide
  · have hkeep : s.filter (fun a => decide (a ≠ "" ∧ a ≠ ".")) = s :=
      List.filter_eq_self.2 fun a ha => by simp [(h a ha).1, (h a ha).2.1]
    rw [segments, Text.split, toList_ofSegments hs,
      splitOn_spell fun a ha => (h a ha).slash_not_mem, List.map_cons, List.map_map]
    simpa [Function.comp_def] using hkeep

theorem ofSegments_injective {s t : List String} (hs : ∀ a ∈ s, IsSegment a)
    (ht : ∀ a ∈ t, IsSegment a) (h : ofSegments s = ofSegments t) : s = t := by
  rw [← segments_ofSegments hs, ← segments_ofSegments ht, h]

theorem ofSegments_eq_root_iff {s : List String} (hs : ∀ a ∈ s, IsSegment a) :
    ofSegments s = root ↔ s = [] := by
  constructor
  · intro h
    exact ofSegments_injective hs (by simp) (h.trans ofSegments_nil.symm)
  · rintro rfl
    exact ofSegments_nil

/-- A canonical path, given by its segments. -/
theorem isCanonical_ofSegments {s : List String} (hs : ∀ a ∈ s, IsSegment a) :
    IsCanonical (ofSegments s) := ⟨s, hs, rfl⟩

/-- A path is canonical if its own segments write it. -/
theorem isCanonical_iff {p : String} :
    IsCanonical p ↔ (∀ a ∈ segments p, IsSegment a) ∧ p = ofSegments (segments p) := by
  constructor
  · rintro ⟨s, hs, rfl⟩
    rw [segments_ofSegments hs]
    exact ⟨hs, rfl⟩
  · rintro ⟨hs, heq⟩
    exact ⟨segments p, hs, heq⟩

instance (p : String) : Decidable (IsCanonical p) := decidable_of_iff _ isCanonical_iff.symm

/-! ## The last segment -/

theorem partitionLast?_ofSegments (s : List String) {a : String} (ha : '/' ∉ a.toList) :
    Text.partitionLast? '/' (ofSegments (s ++ [a])) = some (String.ofList (spell s), a) := by
  refine Text.partitionLast?_eq_some_iff.2 ⟨?_, ha⟩
  rw [toList_ofSegments (by simp), spell_append, spell_singleton, String.toList_ofList]

/-- **`parent` drops the last segment.** -/
theorem parent_ofSegments {s : List String} {a : String} (hs : ∀ b ∈ s, IsSegment b)
    (ha : IsSegment a) : parent (ofSegments (s ++ [a])) = ofSegments s := by
  have hroot : ofSegments (s ++ [a]) ≠ root := by
    rw [Ne, ofSegments_eq_root_iff (by simpa [or_imp, forall_and] using ⟨hs, ha⟩)]
    simp
  rw [parent, if_neg hroot, partitionLast?_ofSegments s ha.slash_not_mem]
  by_cases h : s = []
  · simp [h]
  · have hhead : String.ofList (spell s) ≠ "" := by simp [spell_eq_nil_iff, h]
    simp only [if_neg hhead]
    exact ofList_spell h

/-- **`name` is the last segment.** -/
theorem name_ofSegments (s : List String) {a : String} (ha : '/' ∉ a.toList) :
    name (ofSegments (s ++ [a])) = a := by
  rw [name, partitionLast?_ofSegments s ha]

/-- **`child` adds a segment at the end.** -/
theorem child_ofSegments {s : List String} (hs : ∀ b ∈ s, IsSegment b) (a : String) :
    child (ofSegments s) a = ofSegments (s ++ [a]) := by
  by_cases h : s = []
  · simp [h, child, ofSegments]
  · rw [child, if_neg (by rw [ofSegments_eq_root_iff hs]; exact h), ← String.toList_inj,
      toList_ofSegments (by simp)]
    simp [toList_ofSegments h]

/-! ## First parts -/

/-- **A path lies below another one iff the segments of the other are a first part of its own.** -/
theorem isBelow_ofSegments {s t : List String} (hs : ∀ a ∈ s, IsSegment a)
    (ht : ∀ a ∈ t, IsSegment a) :
    isBelow (ofSegments s) (ofSegments t) = true ↔ t <+: s ∧ t ≠ s := by
  by_cases heq : s = t
  · simp [heq, isBelow]
  have hne : ofSegments s ≠ ofSegments t := fun h => heq (ofSegments_injective hs ht h)
  rw [isBelow, if_neg hne]
  by_cases htnil : t = []
  · subst htnil
    rw [ofSegments_nil, if_pos rfl, Text.startsWith_iff, toList_ofSegments heq]
    cases s <;> simp_all [spell]
  rw [if_neg (by rwa [ofSegments_eq_root_iff ht]), Text.startsWith_iff, String.toList_append,
    toList_ofSegments htnil]
  by_cases hsnil : s = []
  · subst hsnil
    cases t <;> simp_all [spell]
  rw [toList_ofSegments hsnil]
  constructor
  · rintro ⟨rest, hrest⟩
    have hcut := splitOn_spell fun a ha => (hs a ha).slash_not_mem
    rw [← hrest, List.append_assoc, show "/".toList = ['/'] from rfl, List.singleton_append,
      List.splitOn_append_cons_self, splitOn_spell fun a ha => (ht a ha).slash_not_mem] at hcut
    have hmap : t.map String.toList <+: s.map String.toList := ⟨_, by simpa using hcut⟩
    refine ⟨?_, fun h => heq h.symm⟩
    exact (List.prefix_map_iff_of_injective fun _ _ => String.toList_inj.1).1 hmap
  · rintro ⟨⟨u, rfl⟩, -⟩
    cases u with
    | nil => simp at heq
    | cons a u => exact ⟨a.toList ++ spell u, by simp [spell]⟩

/-- **`moved` replaces a first part.** -/
theorem moved_ofSegments {s t u : List String} (hs : ∀ a ∈ s, IsSegment a)
    (ht : ∀ a ∈ t, IsSegment a) (hu : ∀ a ∈ u, IsSegment a) :
    moved (ofSegments s) (ofSegments t) (ofSegments (s ++ u)) = ofSegments (t ++ u) := by
  by_cases hnil : u = []
  · simp [hnil, moved]
  have hsu : ∀ a ∈ s ++ u, IsSegment a := by simpa [or_imp, forall_and] using ⟨hs, hu⟩
  have hne : ofSegments (s ++ u) ≠ ofSegments s := fun h =>
    hnil (by simpa using ofSegments_injective hsu hs h)
  have hrest : (if ofSegments s = root then ofSegments (s ++ u)
      else Text.drop (ofSegments s).length (ofSegments (s ++ u))) = ofSegments u := by
    by_cases h : s = []
    · simp [h]
    · rw [if_neg (by rwa [ofSegments_eq_root_iff hs]), ← String.toList_inj, Text.toList_drop,
        toList_ofSegments (by simp [hnil]), ← String.length_toList, toList_ofSegments h,
        toList_ofSegments hnil, spell_append, List.drop_left]
  rw [moved, if_neg hne]
  simp only [hrest]
  by_cases h : t = []
  · simp [h]
  · rw [if_neg (by rwa [ofSegments_eq_root_iff ht]), ← String.toList_inj, String.toList_append,
      toList_ofSegments h, toList_ofSegments hnil, toList_ofSegments (by simp [hnil]), spell_append]

end Path
end EditorShell

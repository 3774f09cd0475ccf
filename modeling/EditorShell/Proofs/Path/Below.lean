import EditorShell.Proofs.Path.Segments

/-!
# The order of paths

Canonical paths are generated by the root and by `child`, and `IsCanonical.induction` proves what
holds of both. Above a path are its ancestors, and `mem_ancestors_iff` says that these are the
paths it lies below; below a directory are its children and what lies below those. `moved` carries
everything within one directory to the same place within another one, and nothing else of it is
used.
-/

namespace EditorShell
namespace Path

variable {p q a b d n : String}

/-! ## Root and children -/

theorem isCanonical_child (hd : IsCanonical d) (hn : IsSegment n) : IsCanonical (child d n) := by
  obtain ⟨s, hs, rfl⟩ := hd
  rw [child_ofSegments hs]
  exact isCanonical_ofSegments (by simpa [or_imp, forall_and] using ⟨hs, hn⟩)

theorem parent_child (hd : IsCanonical d) (hn : IsSegment n) : parent (child d n) = d := by
  obtain ⟨s, hs, rfl⟩ := hd
  rw [child_ofSegments hs, parent_ofSegments hs hn]

theorem name_child (hd : IsCanonical d) (hn : IsSegment n) : name (child d n) = n := by
  obtain ⟨s, hs, rfl⟩ := hd
  rw [child_ofSegments hs, name_ofSegments s hn.slash_not_mem]

theorem child_ne_root (hd : IsCanonical d) (hn : IsSegment n) : child d n ≠ root := by
  obtain ⟨s, hs, rfl⟩ := hd
  rw [child_ofSegments hs, Ne,
    ofSegments_eq_root_iff (by simpa [or_imp, forall_and] using ⟨hs, hn⟩)]
  simp

/-- A canonical path is the root or a child. -/
theorem IsCanonical.cases (h : IsCanonical p) :
    p = root ∨ ∃ d n, IsCanonical d ∧ IsSegment n ∧ p = child d n := by
  obtain ⟨s, hs, rfl⟩ := h
  rcases List.eq_nil_or_concat s with rfl | ⟨t, n, rfl⟩
  · exact .inl ofSegments_nil
  · have ht : ∀ a ∈ t, IsSegment a := fun a ha => hs a (by simp [ha])
    exact .inr ⟨ofSegments t, n, isCanonical_ofSegments ht, hs n (by simp), by
      rw [child_ofSegments ht, List.concat_eq_append]⟩

/-- What holds of the root, and of a child whenever of its directory, holds of every canonical
path. -/
@[elab_as_elim]
theorem IsCanonical.induction {motive : ∀ p, IsCanonical p → Prop}
    (root : motive root isCanonical_root)
    (child : ∀ d n, (hd : IsCanonical d) → (hn : IsSegment n) → motive d hd →
      motive (child d n) (isCanonical_child hd hn))
    (p : String) (hp : IsCanonical p) : motive p hp := by
  obtain ⟨s, hs, rfl⟩ := hp
  induction s using List.reverseRecOn with
  | nil => simpa using root
  | append_singleton s a ih =>
    have hs' : ∀ b ∈ s, IsSegment b := fun b hb => hs b (by simp [hb])
    have h := child _ a (isCanonical_ofSegments hs') (hs a (by simp)) (ih hs')
    simpa only [child_ofSegments hs'] using h

theorem isCanonical_parent (h : IsCanonical p) : IsCanonical (parent p) := by
  rcases h.cases with rfl | ⟨d, n, hd, hn, rfl⟩
  · simpa [parent] using isCanonical_root
  · rwa [parent_child hd hn]

theorem isSegment_name (h : IsCanonical p) (hne : p ≠ root) : IsSegment (name p) := by
  rcases h.cases with rfl | ⟨d, n, hd, hn, rfl⟩
  · exact absurd rfl hne
  · rwa [name_child hd hn]

theorem child_parent_name (h : IsCanonical p) (hne : p ≠ root) :
    child (parent p) (name p) = p := by
  rcases h.cases with rfl | ⟨d, n, hd, hn, rfl⟩
  · exact absurd rfl hne
  · rw [parent_child hd hn, name_child hd hn]

/-! ## Above and below -/

theorem isWithin_iff : isWithin p d = true ↔ p = d ∨ isBelow p d = true := by simp [isWithin]

theorem isWithin_of_isBelow (h : isBelow p d = true) : isWithin p d = true :=
  isWithin_iff.2 (.inr h)

@[simp] theorem isWithin_self (p : String) : isWithin p p = true := by simp [isWithin]

@[simp] theorem isBelow_self (p : String) : isBelow p p = false := by simp [isBelow]

theorem isBelow_iff : isBelow p d = true ↔ isWithin p d = true ∧ p ≠ d := by
  rw [isWithin_iff]
  by_cases h : p = d <;> simp_all

theorem isWithin_ofSegments {s t : List String} (hs : ∀ a ∈ s, IsSegment a)
    (ht : ∀ a ∈ t, IsSegment a) : isWithin (ofSegments s) (ofSegments t) = true ↔ t <+: s := by
  rw [isWithin_iff, isBelow_ofSegments hs ht]
  by_cases h : s = t
  · simp [h]
  · have hne : ofSegments s ≠ ofSegments t := fun he => h (ofSegments_injective hs ht he)
    simp [hne, Ne.symm h]

/-- **A path lies within a directory iff its segments begin with those of the directory.** -/
theorem isWithin_iff_segments (hp : IsCanonical p) (hd : IsCanonical d) :
    isWithin p d = true ↔ segments d <+: segments p := by
  obtain ⟨s, hs, rfl⟩ := hp
  obtain ⟨t, ht, rfl⟩ := hd
  rw [isWithin_ofSegments hs ht, segments_ofSegments hs, segments_ofSegments ht]

theorem isWithin_root_iff : isWithin p root = true ↔ Text.startsWith p root = true := by
  rw [isWithin, isBelow]
  by_cases h : p = root
  · simp [h, Text.startsWith]
  · simp [h]

theorem isWithin_root (h : IsCanonical p) : isWithin p root = true := by
  obtain ⟨s, hs, rfl⟩ := h
  rw [← ofSegments_nil, isWithin_ofSegments hs (by simp)]
  exact List.nil_prefix

theorem isWithin_trans (hp : IsCanonical p) (hq : IsCanonical q) (hd : IsCanonical d)
    (hpq : isWithin p q = true) (hqd : isWithin q d = true) : isWithin p d = true := by
  obtain ⟨s, hs, rfl⟩ := hp
  obtain ⟨t, ht, rfl⟩ := hq
  obtain ⟨u, hu, rfl⟩ := hd
  rw [isWithin_ofSegments hs ht] at hpq
  rw [isWithin_ofSegments ht hu] at hqd
  rw [isWithin_ofSegments hs hu]
  exact hqd.trans hpq

theorem isWithin_antisymm (hp : IsCanonical p) (hq : IsCanonical q) (hpq : isWithin p q = true)
    (hqp : isWithin q p = true) : p = q := by
  obtain ⟨s, hs, rfl⟩ := hp
  obtain ⟨t, ht, rfl⟩ := hq
  rw [isWithin_ofSegments hs ht] at hpq
  rw [isWithin_ofSegments ht hs] at hqp
  rw [hpq.sublist.antisymm hqp.sublist]

/-- A directory does not lie within what lies below it. -/
theorem isWithin_eq_false_of_isBelow (hp : IsCanonical p) (hd : IsCanonical d)
    (h : isBelow p d = true) : isWithin d p = false := by
  rw [← Bool.not_eq_true]
  intro hin
  rw [isBelow_iff] at h
  exact h.2 (isWithin_antisymm hp hd h.1 hin)

theorem isBelow_trans (hp : IsCanonical p) (hq : IsCanonical q) (hd : IsCanonical d)
    (hpq : isBelow p q = true) (hqd : isBelow q d = true) : isBelow p d = true := by
  rw [isBelow_iff] at hpq hqd ⊢
  refine ⟨isWithin_trans hp hq hd hpq.1 hqd.1, fun he => ?_⟩
  exact hpq.2 (isWithin_antisymm hp hq hpq.1 (he ▸ hqd.1))

/-- Of two directories that hold the same path one holds the other. -/
theorem isWithin_total (hp : IsCanonical p) (ha : IsCanonical a) (hb : IsCanonical b)
    (hpa : isWithin p a = true) (hpb : isWithin p b = true) :
    isWithin a b = true ∨ isWithin b a = true := by
  obtain ⟨s, hs, rfl⟩ := hp
  obtain ⟨t, ht, rfl⟩ := ha
  obtain ⟨u, hu, rfl⟩ := hb
  rw [isWithin_ofSegments hs ht] at hpa
  rw [isWithin_ofSegments hs hu] at hpb
  rw [isWithin_ofSegments ht hu, isWithin_ofSegments hu ht]
  exact (List.prefix_or_prefix_of_prefix hpa hpb).symm

/-- What lies below `d` is a child of `d` or of something below `d`. -/
theorem isBelow_child (hp : IsCanonical p) (hn : IsSegment n) (hd : IsCanonical d) :
    isBelow (child p n) d = isWithin p d := by
  obtain ⟨s, hs, rfl⟩ := hp
  obtain ⟨t, ht, rfl⟩ := hd
  rw [child_ofSegments hs, Bool.eq_iff_iff, isBelow_ofSegments
    (by simpa [or_imp, forall_and] using ⟨hs, hn⟩) ht, isWithin_ofSegments hs ht,
    List.prefix_concat_iff]
  constructor
  · rintro ⟨h | h, hne⟩
    · exact absurd h hne
    · exact h
  · intro h
    refine ⟨.inr h, fun he => ?_⟩
    have := h.length_le
    simp [he] at this

theorem isBelow_root_left (hd : IsCanonical d) : isBelow root d = false := by
  rw [← Bool.not_eq_true, isBelow_iff]
  rintro ⟨h, hne⟩
  exact hne (isWithin_antisymm isCanonical_root hd h (isWithin_root hd))

theorem isBelow_child_self (hd : IsCanonical d) (hn : IsSegment n) :
    isBelow (child d n) d = true := by
  rw [isBelow_child hd hn hd, isWithin_self]

/-- Different children of a directory hold nothing in common. -/
theorem name_eq_of_isWithin_child (hp : IsCanonical p) (hd : IsCanonical d) (ha : IsSegment a)
    (hb : IsSegment b) (hpa : isWithin p (child d a) = true)
    (hpb : isWithin p (child d b) = true) : a = b := by
  -- of the two children one holds the other, but only a directory that holds `d` holds more of them
  have hone : ∀ {a b : String}, IsSegment a → IsSegment b →
      isWithin (child d a) (child d b) = true → a = b := by
    intro a b ha hb h
    rcases isWithin_iff.1 h with heq | hbelow
    · rw [← name_child hd ha, heq, name_child hd hb]
    · rw [isBelow_child hd ha (isCanonical_child hd hb), isWithin_eq_false_of_isBelow
        (isCanonical_child hd hb) hd (isBelow_child_self hd hb)] at hbelow
      cases hbelow
  rcases isWithin_total hp (isCanonical_child hd ha) (isCanonical_child hd hb) hpa hpb with h | h
  · exact hone ha hb h
  · exact (hone hb ha h).symm

/-- Children of one directory are ordered by their names. -/
theorem child_lt_child (d : String) (h : a < b) : child d a < child d b := by
  have hlex (s : String) : s ++ a < s ++ b := by
    rw [String.lt_iff_toList_lt, String.toList_append, String.toList_append]
    exact List.Lex.append_left _ (String.lt_iff_toList_lt.1 h) s.toList
  unfold child
  split
  · exact hlex root
  · exact hlex (d ++ "/")

/-- The parent of what lies below `d` lies within `d`. -/
theorem isWithin_parent (hp : IsCanonical p) (hd : IsCanonical d) (h : isBelow p d = true) :
    isWithin (parent p) d = true := by
  rcases hp.cases with rfl | ⟨e, n, he, hn, rfl⟩
  · rw [isBelow_root_left hd] at h
    cases h
  · rwa [parent_child he hn, ← isBelow_child he hn hd]

theorem isBelow_parent (hp : IsCanonical p) (hne : p ≠ root) : isBelow p (parent p) = true := by
  rcases hp.cases with rfl | ⟨d, n, hd, hn, rfl⟩
  · exact absurd rfl hne
  · rw [parent_child hd hn, isBelow_child hd hn hd, isWithin_self]

theorem ancestors_child (hd : IsCanonical d) (hn : IsSegment n) :
    ancestors (child d n) = ancestors d ++ [d] := by
  rw [ancestors, if_neg (child_ne_root hd hn), parent_child hd hn]

theorem isCanonical_of_mem_ancestors (hp : IsCanonical p) (h : a ∈ ancestors p) :
    IsCanonical a := by
  induction p, hp using IsCanonical.induction with
  | root => simp at h
  | child d n hd hn ih =>
    rw [ancestors_child hd hn, List.mem_append, List.mem_singleton] at h
    rcases h with h | rfl
    · exact ih h
    · exact hd

/-- **The ancestors of a path are the paths that it lies below.** -/
theorem mem_ancestors_iff (hp : IsCanonical p) (ha : IsCanonical a) :
    a ∈ ancestors p ↔ isBelow p a = true := by
  induction p, hp using IsCanonical.induction with
  | root => simp [isBelow_root_left ha]
  | child d n hd hn ih =>
    rw [ancestors_child hd hn, isBelow_child hd hn ha, isWithin_iff, List.mem_append,
      List.mem_singleton, ih, or_comm, eq_comm]

theorem isWithin_iff_eq_or_mem_ancestors (hp : IsCanonical p) (hd : IsCanonical d) :
    isWithin p d = true ↔ d = p ∨ d ∈ ancestors p := by
  rw [isWithin_iff, mem_ancestors_iff hp hd, eq_comm]

/-- The ancestors of a path are listed once. -/
theorem nodup_ancestors (hp : IsCanonical p) : (ancestors p).Nodup := by
  induction p, hp using IsCanonical.induction with
  | root => simp
  | child d n hd hn ih =>
    rw [ancestors_child hd hn]
    have hself : d ∉ ancestors d := by simp [mem_ancestors_iff hd hd]
    refine List.nodup_append.2 ⟨ih, by simp, fun a ha b hb => ?_⟩
    rw [List.mem_singleton.1 hb]
    exact fun he => hself (he ▸ ha)

/-- The text of a path begins with that of any directory that holds it. -/
theorem isPrefix_of_isWithin (hp : IsCanonical p) (hd : IsCanonical d)
    (h : isWithin p d = true) : d.toList <+: p.toList := by
  obtain ⟨s, hs, rfl⟩ := hp
  obtain ⟨t, ht, rfl⟩ := hd
  obtain ⟨u, rfl⟩ := (isWithin_ofSegments hs ht).1 h
  by_cases hu : u = []
  · simp [hu]
  by_cases htnil : t = []
  · subst htnil
    obtain ⟨b, u, rfl⟩ := List.exists_cons_of_ne_nil hu
    rw [ofSegments_nil, toList_ofSegments (by simp)]
    simp [spell]
  · rw [toList_ofSegments htnil, toList_ofSegments (by simp [hu]), spell_append]
    exact List.prefix_append ..

/-- A path that lies below another one comes after it. -/
theorem lt_of_isBelow (hp : IsCanonical p) (ha : IsCanonical a) (h : isBelow p a = true) :
    a < p := by
  obtain ⟨hin, hne⟩ := isBelow_iff.1 h
  exact lt_of_le_of_ne (isPrefix_of_isWithin hp ha hin).le hne.symm

/-- A path that lies below another one is longer. -/
theorem length_lt_of_isBelow (hp : IsCanonical p) (ha : IsCanonical a)
    (h : isBelow p a = true) : a.length < p.length := by
  obtain ⟨hin, hne⟩ := isBelow_iff.1 h
  have hbegins := isPrefix_of_isWithin hp ha hin
  have hle := hbegins.length_le
  have hlen : a.toList.length ≠ p.toList.length := fun he =>
    hne (String.toList_injective (hbegins.eq_of_length he)).symm
  simp only [String.length_toList] at hle hlen
  omega

/-! ## Moving -/

section Moving

variable (ha : IsCanonical a) (hb : IsCanonical b)
include ha hb

/-- **What is within `a` has a place within `b`.** Both places are given by the segments below the
two directories, which are the same. -/
theorem exists_moved (hp : IsCanonical p) (h : isWithin p a = true) :
    ∃ s t u : List String, (∀ x ∈ s, IsSegment x) ∧ (∀ x ∈ t, IsSegment x) ∧
      (∀ x ∈ u, IsSegment x) ∧ a = ofSegments s ∧ b = ofSegments t ∧ p = ofSegments (s ++ u) ∧
      moved a b p = ofSegments (t ++ u) := by
  obtain ⟨s, hs, rfl⟩ := ha
  obtain ⟨t, ht, rfl⟩ := hb
  obtain ⟨r, hr, rfl⟩ := hp
  obtain ⟨u, rfl⟩ := (isWithin_ofSegments hr hs).1 h
  have hu : ∀ x ∈ u, IsSegment x := fun x hx => hr x (by simp [hx])
  exact ⟨s, t, u, hs, ht, hu, rfl, rfl, rfl, moved_ofSegments hs ht hu⟩

omit ha hb in
@[simp] theorem moved_self (a b : String) : moved a b a = b := by simp [moved]

theorem isCanonical_moved (hp : IsCanonical p) (h : isWithin p a = true) :
    IsCanonical (moved a b p) := by
  obtain ⟨s, t, u, -, ht, hu, -, -, -, heq⟩ := exists_moved ha hb hp h
  rw [heq]
  exact isCanonical_ofSegments (by simpa [or_imp, forall_and] using ⟨ht, hu⟩)

theorem isWithin_moved (hp : IsCanonical p) (h : isWithin p a = true) :
    isWithin (moved a b p) b = true := by
  obtain ⟨s, t, u, -, ht, hu, -, hbt, -, heq⟩ := exists_moved ha hb hp h
  rw [heq, hbt, isWithin_ofSegments (by simpa [or_imp, forall_and] using ⟨ht, hu⟩) ht]
  exact List.prefix_append ..

/-- Moving there and back again changes nothing. -/
theorem moved_moved (hp : IsCanonical p) (h : isWithin p a = true) :
    moved b a (moved a b p) = p := by
  obtain ⟨s, t, u, hs, ht, hu, has, hbt, hpu, heq⟩ := exists_moved ha hb hp h
  rw [heq, has, hbt, hpu, moved_ofSegments ht hs hu]

theorem moved_inj (hp : IsCanonical p) (hq : IsCanonical q) (hpa : isWithin p a = true)
    (hqa : isWithin q a = true) : moved a b p = moved a b q ↔ p = q := by
  constructor
  · intro h
    rw [← moved_moved ha hb hp hpa, h, moved_moved ha hb hq hqa]
  · rintro rfl
    rfl

/-- A child moves along with its directory. -/
theorem moved_child (hd : IsCanonical d) (hn : IsSegment n) (h : isWithin d a = true) :
    moved a b (child d n) = child (moved a b d) n := by
  obtain ⟨s, t, u, hs, ht, hu, has, hbt, hdu, heq⟩ := exists_moved ha hb hd h
  have hsu : ∀ x ∈ s ++ u, IsSegment x := by simpa [or_imp, forall_and] using ⟨hs, hu⟩
  have htu : ∀ x ∈ t ++ u, IsSegment x := by simpa [or_imp, forall_and] using ⟨ht, hu⟩
  have hun : ∀ x ∈ u ++ [n], IsSegment x := by simpa [or_imp, forall_and] using ⟨hu, hn⟩
  rw [heq, has, hbt, hdu, child_ofSegments hsu, child_ofSegments htu, List.append_assoc,
    moved_ofSegments hs ht hun, List.append_assoc]

/-- The parent of what lies below `a` moves along. -/
theorem parent_moved (hp : IsCanonical p) (h : isBelow p a = true) :
    parent (moved a b p) = moved a b (parent p) := by
  rcases hp.cases with rfl | ⟨d, n, hd, hn, rfl⟩
  · rw [isBelow_root_left ha] at h
    cases h
  · have hda : isWithin d a = true := by rwa [← isBelow_child hd hn ha]
    rw [moved_child ha hb hd hn hda, parent_child hd hn,
      parent_child (isCanonical_moved ha hb hd hda) hn]

end Moving

end Path
end EditorShell

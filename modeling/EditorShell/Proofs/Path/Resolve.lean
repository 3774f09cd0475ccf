import EditorShell.Proofs.Path.Below
import EditorShell.Session

/-!
# What is typed is made canonical

Whatever a user types, `Path.resolve` makes a canonical path of it as long as the working directory
is one (`isCanonical_resolve`), and so does a session that first puts the home directory in place of
`~`, whatever text the home directory is (`Session.isCanonical_resolve`).
-/

namespace EditorShell

/-! ## Segments of a text -/

namespace Path

/-- No piece between slashes holds a slash. -/
theorem slash_not_mem_of_mem_splitOn {cs piece : List Char} (h : piece ∈ cs.splitOn '/') :
    '/' ∉ piece := by
  induction cs generalizing piece with
  | nil => simp_all
  | cons c cs ih =>
    rw [List.splitOn_cons_eq_if_modifyHead] at h
    by_cases hc : c = '/'
    · simp only [hc, beq_self_eq_true, if_true, List.mem_cons] at h
      rcases h with rfl | h
      · simp
      · exact ih h
    · rw [if_neg (by simpa using hc)] at h
      obtain ⟨first, rest, hcut⟩ := List.exists_cons_of_ne_nil (List.splitOn_ne_nil '/' cs)
      rw [hcut, List.modifyHead_cons, List.mem_cons] at h
      rcases h with rfl | h
      · have := @ih first (by simp [hcut])
        simp [this, Ne.symm hc]
      · exact ih (by simp [hcut, h])

/-- What a path says to visit is a segment or leads upwards. -/
theorem isSegment_of_mem_segments {path s : String} (h : s ∈ segments path) (hup : s ≠ "..") :
    IsSegment s := by
  rw [segments, List.mem_filter, decide_eq_true_eq] at h
  obtain ⟨hmem, hempty, hdot⟩ := h
  obtain ⟨piece, hpiece, rfl⟩ := List.mem_map.1 hmem
  exact ⟨hempty, hdot, hup, by simpa using slash_not_mem_of_mem_splitOn hpiece⟩

/-- One segment further from a canonical directory. -/
theorem forall_isSegment_step {directory : List String} {s : String}
    (hd : ∀ a ∈ directory, IsSegment a) (hs : s ≠ ".." → IsSegment s) :
    ∀ a ∈ step directory s, IsSegment a := by
  intro a ha
  rw [step] at ha
  split at ha
  · exact hd a (List.dropLast_subset _ ha)
  next hne =>
    rcases List.mem_append.1 ha with ha | ha
    · exact hd a ha
    · rw [List.mem_singleton.1 ha]
      exact hs hne

theorem forall_isSegment_foldl_step {steps directory : List String}
    (hsteps : ∀ s ∈ steps, s ≠ ".." → IsSegment s) (hd : ∀ a ∈ directory, IsSegment a) :
    ∀ a ∈ steps.foldl step directory, IsSegment a := by
  induction steps generalizing directory with
  | nil => exact hd
  | cons s steps ih =>
    exact ih (fun t ht => hsteps t (by simp [ht]))
      (forall_isSegment_step hd (hsteps s (by simp)))

/-! ## Resolution -/

theorem isCanonical_normalize (path : String) : IsCanonical (normalize path) :=
  isCanonical_ofSegments <|
    forall_isSegment_foldl_step (fun _ hs => isSegment_of_mem_segments hs) (by simp)

/-- **What is typed in a canonical directory denotes a canonical path.** -/
theorem isCanonical_resolve {cwd : String} (h : IsCanonical cwd) (path : String) :
    IsCanonical (resolve cwd path) := by
  unfold resolve
  split_ifs
  · exact h
  · exact isCanonical_parent h
  all_goals exact isCanonical_normalize _

theorem foldl_step {steps : List String} (h : ∀ s ∈ steps, IsSegment s) (directory : List String) :
    steps.foldl step directory = directory ++ steps := by
  induction steps generalizing directory with
  | nil => simp
  | cons s steps ih =>
    have hs : s ≠ ".." := (h s List.mem_cons_self).2.2.1
    rw [List.foldl_cons, ih (fun t ht => h t (List.mem_cons_of_mem s ht)), step, if_neg hs,
      List.append_assoc, List.singleton_append]

variable {p : String}

theorem normalize_eq_self (h : IsCanonical p) : normalize p = p := by
  obtain ⟨s, hs, rfl⟩ := h
  rw [normalize, segments_ofSegments hs, foldl_step hs, List.nil_append]

theorem exists_toList_eq_cons (h : IsCanonical p) : ∃ rest, p.toList = '/' :: rest := by
  obtain ⟨rest, hrest⟩ := Text.startsWith_iff.1 (isWithin_root_iff.1 (isWithin_root h))
  exact ⟨rest, hrest.symm⟩

/-- An absolute path denotes the same in every directory. -/
theorem resolve_of_absolute {path : String} (h : Text.startsWith path root = true)
    (cwd : String) : resolve cwd path = normalize path := by
  have hne {t : String} (ht : Text.startsWith t root = false) : path ≠ t := by
    rintro rfl
    rw [h] at ht
    cases ht
  have hempty : path ≠ "" := hne (by decide)
  have hdot : path ≠ "." := hne (by decide)
  have hup : path ≠ ".." := hne (by decide)
  rw [resolve, if_neg (by simp [hempty, hdot]), if_neg hup, if_pos h]

/-- **A canonical path denotes itself** in every directory. -/
theorem resolve_eq_self (h : IsCanonical p) (cwd : String) : resolve cwd p = p := by
  rw [resolve_of_absolute (isWithin_root_iff.1 (isWithin_root h)), normalize_eq_self h]

end Path

/-! ## Sessions -/

/-- The path begins at the home directory. -/
def StartsAtHome (path : String) : Prop := path = "~" ∨ Text.startsWith path "~/" = true

instance : DecidablePred StartsAtHome := fun _ => inferInstanceAs (Decidable (_ ∨ _))

variable {path : String}

/-- What begins at the home directory is not spelled from the root. -/
theorem StartsAtHome.relative (h : StartsAtHome path) :
    Text.startsWith path Path.root = false := by
  obtain rfl | h := h
  · decide
  · obtain ⟨rest, hrest⟩ := Text.startsWith_iff.1 h
    rw [Text.startsWith, ← hrest]
    rfl

namespace Session

variable {session : Session}

/-- Only what begins at the home directory is spelled in another way. -/
theorem expandHome_eq_self (h : ¬StartsAtHome path) (session : Session) (settings : Settings) :
    session.expandHome settings path = path := by
  have hnone : (decide (path = "~") || Text.startsWith path "~/") = false := by
    simpa [StartsAtHome] using h
  simp only [expandHome, hnone, Bool.false_eq_true, if_false]

/-- **What is typed in a session denotes a canonical path,** whatever the home directory is. -/
theorem isCanonical_resolve (h : Path.IsCanonical session.store.cwd)
    (settings : Settings) (path : String) :
    Path.IsCanonical (session.resolve settings path) :=
  Path.isCanonical_resolve h _

theorem resolve_eq_self (h : Path.IsCanonical path) (session : Session)
    (settings : Settings) : session.resolve settings path = path := by
  have hnot : ¬StartsAtHome path := fun hhome => by
    simpa [Path.isWithin_root_iff.1 (Path.isWithin_root h)] using hhome.relative
  rw [resolve, expandHome_eq_self hnot, Path.resolve_eq_self h]

end Session
end EditorShell

import EditorShell.Proofs.Path.Resolve

/-!
# A typed path is walked segment by segment

A path that is typed after another one and a slash goes on from where that one has led
(`follow_append`). With all its cases `resolve` is such a walk, from the root for an absolute path
and else from the working directory (`resolve_eq_follow`). So what is typed denotes the canonical
form of its absolute spelling, and to type `a/b` is to type `b` where `a` has led
(`resolve_append`).
-/

namespace EditorShell
namespace Path

variable {c p a b : String}

/-! ## Walks -/

/-- The segments of the directory to which `path` leads from the one with the given segments. -/
def follow (directory : List String) (path : String) : List String :=
  (segments path).foldl step directory

/-- Texts that are joined by a slash have the segments of both. -/
theorem segments_append_slash (a b : String) :
    segments (a ++ "/" ++ b) = segments a ++ segments b := by
  have htext : (a ++ "/" ++ b).toList = a.toList ++ '/' :: b.toList := by simp
  rw [segments, Text.split, htext, List.splitOn_append_cons_self, List.map_append,
    List.filter_append]
  rfl

/-- **A path goes on from where the one before its slash has led.** -/
theorem follow_append (directory : List String) (a b : String) :
    follow directory (a ++ "/" ++ b) = follow (follow directory a) b := by
  rw [follow, segments_append_slash, List.foldl_append]
  rfl

/-- From the root a canonical path leads to itself. -/
theorem follow_of_isCanonical (hc : IsCanonical c) : follow [] c = segments c := by
  rw [follow, foldl_step (isCanonical_iff.1 hc).1, List.nil_append]

theorem normalize_eq_follow (path : String) : normalize path = ofSegments (follow [] path) := rfl

theorem normalize_append (hc : IsCanonical c) (path : String) :
    normalize (c ++ "/" ++ path) = ofSegments (follow (segments c) path) := by
  rw [normalize_eq_follow, follow_append, follow_of_isCanonical hc]

/-- A slash in front changes nothing, as the walk begins at the root anyway. -/
theorem normalize_root_append (path : String) : normalize (root ++ path) = normalize path := by
  have hempty : root ++ path = "" ++ "/" ++ path := by simp [root]
  rw [normalize_eq_follow, hempty, follow_append]
  rfl

/-- The parent is one step up. -/
theorem parent_eq_ofSegments (hc : IsCanonical c) :
    parent c = ofSegments (segments c).dropLast := by
  rcases hc.cases with rfl | ⟨d, n, hd, hn, rfl⟩
  · decide
  · obtain ⟨s, hs, rfl⟩ := hd
    have hsn : ∀ a ∈ s ++ [n], IsSegment a := by simpa [or_imp, forall_and] using ⟨hs, hn⟩
    rw [child_ofSegments hs, parent_ofSegments hs hn, segments_ofSegments hsn,
      List.dropLast_concat]

/-! ## Resolution -/

/-- The segments of the directory in which the walk along a typed path begins. -/
def origin (cwd path : String) : List String :=
  if Text.startsWith path root then [] else segments cwd

/-- **To resolve a path is to walk along it,** from the root if it is absolute and else from the
working directory. -/
theorem resolve_eq_follow (hc : IsCanonical c) (path : String) :
    resolve c path = ofSegments (follow (origin c path) path) := by
  unfold resolve
  split_ifs with hstay hup habsolute hroot
  · have hself : c = ofSegments (segments c) := (isCanonical_iff.1 hc).2
    obtain rfl | rfl : path = "" ∨ path = "." := by simpa using hstay
    · exact hself
    · exact hself
  · subst hup
    exact parent_eq_ofSegments hc
  · rw [origin, if_pos habsolute]
    rfl
  · subst hroot
    rw [origin, if_neg habsolute, normalize_root_append]
    rfl
  · rw [origin, if_neg habsolute, normalize_append hc]

/-- A relative path denotes what its absolute spelling denotes. -/
theorem resolve_of_relative (hc : IsCanonical c) (hp : Text.startsWith p root = false) :
    resolve c p = normalize (c ++ "/" ++ p) := by
  rw [resolve_eq_follow hc, origin, hp, normalize_append hc]
  rfl

theorem segments_resolve (hc : IsCanonical c) (path : String) :
    segments (resolve c path) = follow (origin c path) path := by
  have horigin : ∀ s ∈ origin c path, IsSegment s := by
    unfold origin
    split_ifs
    · simp
    · exact (isCanonical_iff.1 hc).1
  rw [resolve_eq_follow hc]
  exact segments_ofSegments <|
    forall_isSegment_foldl_step (fun _ hs => isSegment_of_mem_segments hs) horigin

/-- What is appended to a text does not make it absolute, unless the text is empty. -/
theorem startsWith_root_append (ha : a ≠ "") (b : String) :
    Text.startsWith (a ++ b) root = Text.startsWith a root := by
  obtain ⟨x, rest, hrest⟩ := List.exists_cons_of_ne_nil (mt String.toList_eq_nil_iff.1 ha)
  simp [Text.startsWith, hrest, List.isPrefixOf]

/-- **To type `a/b` is to type `a` and then, where it has led, `b`.** -/
theorem resolve_append (hc : IsCanonical c) (ha : a ≠ "") (hb : Text.startsWith b root = false) :
    resolve c (a ++ "/" ++ b) = resolve (resolve c a) b := by
  have horigin : origin (resolve c a) b = follow (origin c a) a := by
    rw [← segments_resolve hc, origin, hb]
    rfl
  have hsame : origin c (a ++ "/" ++ b) = origin c a := by
    rw [origin, String.append_assoc, startsWith_root_append ha, origin]
  rw [resolve_eq_follow hc, resolve_eq_follow (isCanonical_resolve hc a), horigin, follow_append,
    hsame]

/-- **What is typed in a canonical directory denotes a canonical path, and by parts.** It is the
canonical form of the text itself if that is absolute, and else of the text after the directory and
a slash, also for those texts that are not walked at all. It denotes itself wherever it is typed
again. And a path that is joined from two others leads where the second one leads from where the
first one has led. -/
theorem resolve_composes (hc : IsCanonical c) (p : String) :
    IsCanonical (resolve c p) ∧
      (Text.startsWith p root = false → resolve c p = normalize (c ++ "/" ++ p)) ∧
      (Text.startsWith p root = true → resolve c p = normalize p) ∧
      (∀ d, resolve d (resolve c p) = resolve c p) ∧
      ∀ a b, a ≠ "" → Text.startsWith b root = false →
        resolve c (a ++ "/" ++ b) = resolve (resolve c a) b :=
  ⟨isCanonical_resolve hc p, resolve_of_relative hc, fun h => resolve_of_absolute h c,
    resolve_eq_self (isCanonical_resolve hc p), fun _ _ => resolve_append hc⟩

/-- The way leads above the root and through names that begin with dots. -/
theorem resolve_composes_above_root :
    IsCanonical "/src/lib" ∧ IsCanonical (resolve "/src/lib" "..") ∧
      resolve "/src/lib" ".." = normalize "/src/lib/.." ∧
      resolve "/" (resolve "/src/lib" "..") = "/src" ∧
      resolve "/src/lib" "/../x/.././../" = resolve (resolve "/src/lib" "/../x/..") "./../" ∧
      resolve "/src/lib" "../../../.../a..b" = "/.../a..b" := by
  have hc : IsCanonical "/src/lib" := by decide
  obtain ⟨hcanonical, hrelative, -, hself, happend⟩ := resolve_composes hc ".."
  refine ⟨hc, hcanonical, hrelative (by decide), (hself "/").trans (by decide), ?_, ?_⟩
  · exact happend "/../x/.." "./../" (by decide) (by decide)
  · exact (happend "../.." "../.../a..b" (by decide) (by decide)).trans (by decide)

end Path
end EditorShell

import EditorShell.Proofs.Path.Composition
import EditorShell.Proofs.Path.Relative
import Mathlib.Data.List.Infix
import Mathlib.Data.Set.Function

/-!
# Functions on paths are functions on lists

A canonical path and the list of its segments are one and the same (`bijOn_segments`), and every
function on paths is one on lists: the ancestors are the proper first parts of the list
(`ancestors_eq`), to lie below another path is to begin with its list, and what moves gets another
first part (`moved_eq`). All of it holds of the root as of any other path, though the root is the
one path that ends in a slash and most functions treat it apart.

On a text that is no canonical path the way up still ends at the root (`exists_climb`). Its parent
may be as long as the text itself, as for `a` and the root, so it is not the length that falls.
-/

namespace EditorShell
namespace Path

variable {p a b : String}

/-- **Canonical paths are the lists of names.** -/
theorem bijOn_segments :
    Set.BijOn segments {p | IsCanonical p} {s | ∀ a ∈ s, IsSegment a} := by
  refine ⟨fun p hp => (isCanonical_iff.1 hp).1, fun p hp q hq h => ?_, fun s hs => ?_⟩
  · rw [(isCanonical_iff.1 hp).2, h, ← (isCanonical_iff.1 hq).2]
  · exact ⟨ofSegments s, isCanonical_ofSegments hs, segments_ofSegments hs⟩

/-! ## The last segment -/

theorem name_eq (hp : IsCanonical p) : name p = (segments p).getLast?.getD "" := by
  rcases hp.cases with rfl | ⟨d, n, hd, hn, rfl⟩
  · decide
  · rw [name_child hd hn, segments_child hd hn]
    simp

theorem child_eq (hp : IsCanonical p) (n : String) :
    child p n = ofSegments (segments p ++ [n]) := by
  obtain ⟨s, hs, rfl⟩ := hp
  rw [child_ofSegments hs, segments_ofSegments hs]

/-! ## First parts -/

/-- The last of the first parts is the whole. -/
theorem inits_dropLast_append (s : List String) : s.inits.dropLast ++ [s] = s.inits := by
  rcases List.eq_nil_or_concat s with rfl | ⟨t, n, rfl⟩
  · rfl
  · rw [List.concat_eq_append, List.inits_append]
    exact congrArg (· ++ [t ++ [n]]) List.dropLast_concat

/-- **The ancestors of a path are the proper first parts of its list,** from the empty one on. -/
theorem ancestors_eq (hp : IsCanonical p) :
    ancestors p = (segments p).inits.dropLast.map ofSegments := by
  induction p, hp using IsCanonical.induction with
  | root =>
    rw [ancestors_root]
    decide
  | child d n hd hn ih =>
    have hself : ofSegments (segments d) = d := (isCanonical_iff.1 hd).2.symm
    -- the first parts of the directory, itself included, are the proper ones of the child
    have hproper : (segments d ++ [n]).inits.dropLast = (segments d).inits := by
      rw [List.inits_append]
      exact List.dropLast_concat
    calc ancestors (child d n)
        = (segments d).inits.dropLast.map ofSegments ++ [d] := by rw [ancestors_child hd hn, ih]
      _ = ((segments d).inits.dropLast ++ [segments d]).map ofSegments := by
          rw [List.map_append, List.map_singleton, hself]
      _ = (segments (child d n)).inits.dropLast.map ofSegments := by
          rw [inits_dropLast_append, segments_child hd hn, hproper]

theorem isBelow_iff_segments (hp : IsCanonical p) (ha : IsCanonical a) :
    isBelow p a = true ↔ segments a <+: segments p ∧ segments a ≠ segments p := by
  obtain ⟨s, hs, rfl⟩ := hp
  obtain ⟨t, ht, rfl⟩ := ha
  rw [isBelow_ofSegments hs ht, segments_ofSegments hs, segments_ofSegments ht]

/-- **What moves gets another first part.** -/
theorem moved_eq (hp : IsCanonical p) (ha : IsCanonical a) (hb : IsCanonical b)
    (h : isWithin p a = true) :
    moved a b p = ofSegments (segments b ++ (segments p).drop (segments a).length) := by
  obtain ⟨s, t, u, hs, ht, hu, rfl, rfl, rfl, hmoved⟩ := exists_moved ha hb hp h
  rw [hmoved, segments_ofSegments hs, segments_ofSegments ht,
    segments_ofSegments (by simpa [or_imp, forall_and] using ⟨hs, hu⟩), List.drop_left]

/-! ## The way up -/

/-- **From every text the way up ends at the root,** and the ancestors are what it passes. -/
theorem exists_climb (p : String) :
    ∃ n ≤ height p, parent^[n] p = root ∧ (∀ i < n, parent^[i] p ≠ root) ∧
      ancestors p = ((List.range n).map fun i => parent^[i + 1] p).reverse := by
  induction p using ancestors.induct with
  | case1 => exact ⟨0, by simp⟩
  | case2 p hp ih =>
    obtain ⟨n, hn, hend, hbefore, hpassed⟩ := ih
    refine ⟨n + 1, (Nat.succ_le_succ hn).trans (height_parent_lt hp), hend, fun i hi => ?_, ?_⟩
    · cases i with
      | zero => exact hp
      | succ i => exact hbefore i (Nat.lt_of_succ_lt_succ hi)
    · rw [ancestors, if_neg hp, hpassed, List.range_succ_eq_map, List.map_cons, List.map_map,
        List.reverse_cons]
      rfl

/-! ## All functions together -/

/-- What the functions on paths are of a canonical path: the functions on the list of its
segments. -/
structure ActsOnSegments (path : String) : Prop where
  written : path = ofSegments (segments path)
  /-- The last segment goes; the root has none and stays. -/
  parent : Path.parent path = ofSegments (segments path).dropLast
  name : Path.name path = (segments path).getLast?.getD ""
  child : ∀ n, Path.child path n = ofSegments (segments path ++ [n])
  /-- The proper first parts, from the empty one on. -/
  ancestors : Path.ancestors path = (segments path).inits.dropLast.map ofSegments
  isBelow : ∀ a, IsCanonical a →
    (Path.isBelow path a = true ↔ segments a <+: segments path ∧ segments a ≠ segments path)
  mem_ancestors : ∀ a, IsCanonical a → (a ∈ Path.ancestors path ↔ Path.isBelow path a = true)
  /-- The first part is replaced. -/
  moved : ∀ a b, IsCanonical a → IsCanonical b → segments a <+: segments path →
    Path.moved a b path = ofSegments (segments b ++ (segments path).drop (segments a).length)
  moved_back : ∀ a b, IsCanonical a → IsCanonical b → segments a <+: segments path →
    Path.moved b a (Path.moved a b path) = path
  parent_moved : ∀ a b, IsCanonical a → IsCanonical b → Path.isBelow path a = true →
    Path.parent (Path.moved a b path) = Path.moved a b (Path.parent path)

theorem actsOnSegments (hp : IsCanonical p) : ActsOnSegments p where
  written := (isCanonical_iff.1 hp).2
  parent := parent_eq_ofSegments hp
  name := name_eq hp
  child := child_eq hp
  ancestors := ancestors_eq hp
  isBelow _ ha := isBelow_iff_segments hp ha
  mem_ancestors _ ha := mem_ancestors_iff hp ha
  moved _ _ ha hb h := moved_eq hp ha hb ((isWithin_iff_segments hp ha).2 h)
  moved_back _ _ ha hb h := moved_moved ha hb hp ((isWithin_iff_segments hp ha).2 h)
  parent_moved _ _ ha hb h := Path.parent_moved ha hb hp h

/-- **Functions on paths are the functions on lists that they stand for.** Canonical paths and
lists of names are in bijection, and with the list of a path its parent, its name, its children and
its ancestors are known, what it lies below and where it moves. The ancestors of a text, canonical
or not, are found in finitely many steps up, which end at the root and not before. -/
theorem functions_on_segments :
    Set.BijOn segments {p | IsCanonical p} {s | ∀ a ∈ s, IsSegment a} ∧
      (∀ p, IsCanonical p → ActsOnSegments p) ∧
      ∀ p, ∃ n ≤ height p, parent^[n] p = root ∧ (∀ i < n, parent^[i] p ≠ root) ∧
        ancestors p = ((List.range n).map fun i => parent^[i + 1] p).reverse :=
  ⟨bijOn_segments, fun _ => actsOnSegments, exists_climb⟩

/-- Out of `/src` into the root and back, a text that is no path at all, and the root itself. -/
theorem functions_on_segments_at_root :
    IsCanonical "/src" ∧ IsCanonical root ∧ IsCanonical "/src/lib/x" ∧
      moved "/src" root "/src/lib/x" = "/lib/x" ∧ moved root "/src" "/lib/x" = "/src/lib/x" ∧
      parent (moved "/src" root "/src/lib/x") = moved "/src" root "/src/lib" ∧
      ancestors "/src/lib/x" = ["/", "/src", "/src/lib"] ∧ parent root = root ∧
      ∃ n ≤ height "a//b", parent^[n] "a//b" = root := by
  have hsrc : IsCanonical "/src" := by decide
  have hfile : IsCanonical "/src/lib/x" := by decide
  have hfirst : segments "/src" <+: segments "/src/lib/x" := by decide
  obtain ⟨-, hacts, hclimb⟩ := functions_on_segments
  have h := hacts _ hfile
  have hplace : moved "/src" root "/src/lib/x" = "/lib/x" :=
    (h.moved _ _ hsrc isCanonical_root hfirst).trans (by decide)
  have hback := h.moved_back _ _ hsrc isCanonical_root hfirst
  obtain ⟨n, hn, hend, -⟩ := hclimb "a//b"
  exact ⟨hsrc, isCanonical_root, hfile, hplace, hplace ▸ hback,
    h.parent_moved _ _ hsrc isCanonical_root (by decide), h.ancestors.trans (by decide),
    (hacts _ isCanonical_root).parent.trans (by decide), n, hn, hend⟩

end Path
end EditorShell

import EditorShell.Proofs.Store.Locality
import EditorShell.Proofs.Store.Atomic

/-!
# Operations in different directories commute

Two directories of which neither holds the other have no path in common. So an operation below one
of them leaves everything that an operation below the other sees, and each of the two ends and
acts as if the other had not been there (`perform_comm`). The counter and the working directory,
which belong to the whole store, come out the same because each operation counts what it does by
itself and moves only a working directory of its own.
-/

namespace EditorShell
namespace Store

variable {store s t : Store} {a b path : String}

/-- Two directories other than the root, neither of which holds the other. -/
structure Apart (a b : String) : Prop where
  left : Path.IsCanonical a
  right : Path.IsCanonical b
  left_ne_root : a ≠ Path.root
  right_ne_root : b ≠ Path.root
  not_within : Path.isWithin a b = false
  not_within' : Path.isWithin b a = false

namespace Apart

theorem symm (h : Apart a b) : Apart b a :=
  ⟨h.right, h.left, h.right_ne_root, h.left_ne_root, h.not_within', h.not_within⟩

/-- The root holds everything, so it is apart from nothing. -/
theorem of_wellFormed (h : WellFormed store) (ha : a ∈ store.directories)
    (hb : b ∈ store.directories) (hab : Path.isWithin a b = false)
    (hba : Path.isWithin b a = false) : Apart a b := by
  have hleft := h.canonical a (.inr ha)
  have hright := h.canonical b (.inr hb)
  refine ⟨hleft, hright, ?_, ?_, hab, hba⟩
  · rintro rfl
    rw [Path.isWithin_root hright] at hba
    cases hba
  · rintro rfl
    rw [Path.isWithin_root hleft] at hab
    cases hab

/-- No path lies within both. -/
theorem outside (h : Apart a b) (hpath : Path.isWithin path a = true) :
    Path.isWithin path b = false := by
  rw [← Bool.not_eq_true]
  intro hin
  rcases Path.isWithin_or_isWithin h.left_ne_root h.right_ne_root hpath hin with hab | hba
  · rw [h.not_within] at hab
    cases hab
  · rw [h.not_within'] at hba
    cases hba

theorem not_below (h : Apart a b) (hpath : Path.isWithin path a = true) :
    Path.isBelow path b = false :=
  Path.isBelow_eq_false (h.outside hpath)

/-- A path lies within one of the two, or within the other, or below neither. -/
theorem places (h : Apart a b) (path : String) :
    (Path.isWithin path a = true ∧ Path.isBelow path b = false) ∨
      (Path.isWithin path b = true ∧ Path.isBelow path a = false) ∨
      (Path.isBelow path a = false ∧ Path.isBelow path b = false) := by
  cases ha : Path.isWithin path a with
  | true => exact .inl ⟨rfl, h.not_below ha⟩
  | false =>
    have hnota := Path.isBelow_eq_false ha
    cases hb : Path.isWithin path b with
    | true => exact .inr (.inl ⟨rfl, hnota⟩)
    | false => exact .inr (.inr ⟨hnota, Path.isBelow_eq_false hb⟩)

/-- A change below one directory is not seen within the other. -/
theorem agreeWithin (h : Apart a b) (hchanged : ChangedBelow b s t) : AgreeWithin a s t where
  mem_iff p hp := (hchanged.mem_iff p (h.not_below hp)).symm
  get?_eq p hp := (hchanged.get?_eq p (h.not_below hp)).symm
  cwd_eq hcwd := by
    rcases hchanged.cwd with heq | ⟨hs, ht⟩
    · exact heq.symm
    · -- both working directories lie within `b`, so neither lies within `a`
      rw [h.symm.outside hs, h.symm.outside ht] at hcwd
      simp at hcwd

/-- A change below one directory leaves the other where it is. -/
theorem hosts (h : Apart a b) (hs : s.Hosts a) (hchanged : ChangedBelow b s t) : t.Hosts a := by
  refine hchanged.hosts hs (h.not_below (Path.isWithin_self a)) fun x hx => ?_
  have hcanonical := Path.isCanonical_of_mem_ancestors h.left hx
  have habove := (Path.mem_ancestors_iff h.left hcanonical).1 hx
  rw [← Bool.not_eq_true]
  intro hbelow
  have hab := Path.isBelow_of_isBelow_of_isWithin h.right_ne_root
    (Path.ne_root_of_isBelow h.right hbelow) habove (Path.isWithin_of_isBelow hbelow)
  rw [h.not_below (Path.isWithin_self a)] at hab
  cases hab

/-- Before and after a change below one directory the stores are twins within the other. -/
theorem twins (h : Apart a b) (hs : s.Hosts a) (hchanged : ChangedBelow b s t) : Twins a s t :=
  ⟨h.left, h.left_ne_root, hs, h.hosts hs hchanged, h.agreeWithin hchanged⟩

variable {sa sb sab sba : Store}

/-- **Changes in different directories commute.** What is done below `a` leads from `s` to `sa` and
from `sb` to `sba`, what is done below `b` from `s` to `sb` and from `sa` to `sab`. -/
theorem same (h : Apart a b) (ha : Parallel a s sb sa sba) (hb : Parallel b s sa sb sab) :
    Same sab sba where
  mem_directories_iff p := by
    obtain ⟨hpa, hnotb⟩ | ⟨hpb, hnota⟩ | ⟨hnota, hnotb⟩ := h.places p
    · rw [hb.right.mem_iff p hnotb]
      exact ha.agree.mem_iff p hpa
    · rw [ha.right.mem_iff p hnota]
      exact (hb.agree.mem_iff p hpb).symm
    · rw [hb.right.mem_iff p hnotb, ha.left.mem_iff p hnota, ha.right.mem_iff p hnota,
        hb.left.mem_iff p hnotb]
  get?_eq p := by
    obtain ⟨hpa, hnotb⟩ | ⟨hpb, hnota⟩ | ⟨hnota, hnotb⟩ := h.places p
    · rw [hb.right.get?_eq p hnotb]
      exact ha.agree.get?_eq p hpa
    · rw [ha.right.get?_eq p hnota]
      exact (hb.agree.get?_eq p hpb).symm
    · rw [hb.right.get?_eq p hnotb, ha.left.get?_eq p hnota, ha.right.get?_eq p hnota,
        hb.left.get?_eq p hnotb]
  cwd_eq := by
    rcases hb.right.cwd with hsab | ⟨hsa, hsab⟩
    · rcases ha.right.cwd with hsba | ⟨-, hsba⟩
      · rcases ha.left.cwd with hsa | ⟨-, hsa⟩
        · rcases hb.left.cwd with hsb | ⟨-, hsb⟩
          · rw [hsab, hsba, hsa, hsb]
          · rw [hsba, hb.agree.cwd_eq (.inl hsb)]
        · rw [hsab, ha.agree.cwd_eq (.inl hsa)]
      · rw [hsab, ha.agree.cwd_eq (.inr hsba)]
    · -- the working directory is within `b`, so what is done below `a` leaves it
      have hsb := hb.agree.cwd_eq (.inr hsab)
      rcases ha.right.cwd with hsba | ⟨hin, -⟩
      · rw [hsba, hsb]
      · rw [hsb, h.symm.outside hsab] at hin
        cases hin
  revision_eq := by
    have hfirst := ha.revision_eq
    have hsecond := hb.revision_eq
    omega

end Apart

/-- **Operations in different directories commute:** of two operations, the one below `a` and the
other below `b`, each ends as it would without the other, and the order does not show in the
store. -/
theorem perform_comm (h : WellFormed store) (ha : a ∈ store.directories)
    (hb : b ∈ store.directories) (hab : Path.isWithin a b = false)
    (hba : Path.isWithin b a = false) {first second : Operation} (hfirst : first.WorksBelow a)
    (hsecond : second.WorksBelow b) :
    ((store.perform second).1.perform first).2 = (store.perform first).2 ∧
      ((store.perform first).1.perform second).2 = (store.perform second).2 ∧
      ((store.perform first).1.perform second).1.Same
        ((store.perform second).1.perform first).1 := by
  have hapart : Apart a b := .of_wellFormed h ha hb hab hba
  have hosts {d : String} (hd : d ∈ store.directories) : store.Hosts d :=
    ⟨hd, fun x hx => h.ancestor_mem d (.inr hd) x hx, h.nodup⟩
  have hchangedFirst : ChangedBelow a store (store.perform first).1 :=
    ((hapart.twins (hosts ha) (.refl b store)).perform hfirst).parallel.left
  have hchangedSecond : ChangedBelow b store (store.perform second).1 :=
    ((hapart.symm.twins (hosts hb) (.refl a store)).perform hsecond).parallel.left
  obtain ⟨hendFirst, hparFirst⟩ := (hapart.twins (hosts ha) hchangedSecond).perform hfirst
  obtain ⟨hendSecond, hparSecond⟩ := (hapart.symm.twins (hosts hb) hchangedFirst).perform hsecond
  exact ⟨hendFirst.symm, hendSecond.symm, hapart.same hparFirst hparSecond⟩

/-- Two directories beside each other, and below the second the working directory. -/
def siblings : Store where
  directories := ["/", "/a", "/b", "/b/c"]
  files := Table.ofList [("/a/x", ⟨"1", none, some "n"⟩), ("/b/c/y", ⟨"2", none, none⟩)]
  cwd := "/b/c"
  revision := 5

theorem wellFormed_siblings : siblings.WellFormed := by decide

theorem perform_comm_siblings :
    let first := Operation.moveFile "/a/x" "/a/z"
    let second := Operation.moveDirectory "/b/c" "/b/d"
    (siblings.perform first).2 = none ∧ (siblings.perform second).2 = none ∧
      ((siblings.perform second).1.perform first).2 = none ∧
      ((siblings.perform first).1.perform second).2 = none ∧
      ((siblings.perform first).1.perform second).1.Same
        ((siblings.perform second).1.perform first).1 := by
  intro first second
  have hfirst : first.WorksBelow "/a" := by
    simp only [first, Operation.WorksBelow, Operation.paths, List.forall_mem_cons]
    exact ⟨by decide, by decide, by simp⟩
  have hsecond : second.WorksBelow "/b" := by
    simp only [second, Operation.WorksBelow, Operation.paths, List.forall_mem_cons]
    exact ⟨by decide, by decide, by simp⟩
  have hendFirst : (siblings.perform first).2 = none := by decide +kernel
  have hendSecond : (siblings.perform second).2 = none := by decide +kernel
  obtain ⟨hone, htwo, hsame⟩ := perform_comm wellFormed_siblings (a := "/a") (b := "/b")
    (by decide) (by decide) (by decide) (by decide) hfirst hsecond
  exact ⟨hendFirst, hendSecond, hone.trans hendFirst, htwo.trans hendSecond, hsame⟩

end Store
end EditorShell

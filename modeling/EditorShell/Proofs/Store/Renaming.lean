import EditorShell.Proofs.Store.Identity

/-!
# Moving a directory renames paths

`Path.renamed source target` gives everything within `source` its place within `target` and leaves
all other paths alone. A move of a directory is this renaming and nothing else: the directories and
files afterwards are those from before under their new names, with all that the files hold
(`Renames`). Renamings follow one another (`Renames.trans`), and on the paths of a store the
renaming back undoes the renaming (`Path.renamed_renamed`), so a move back restores the store. A
copy leaves what is there and adds what the renaming gives new names to.
-/

namespace EditorShell

namespace Path

variable {source target path : String}

/-- The path that `path` has once the directory `source` has become `target`. -/
def renamed (source target path : String) : String :=
  if isWithin path source then moved source target path else path

theorem renamed_of_isWithin (h : isWithin path source = true) :
    renamed source target path = moved source target path := if_pos h

theorem renamed_of_not_isWithin (h : isWithin path source = false) :
    renamed source target path = path := if_neg (by simp [h])

/-- The renaming back undoes a renaming, as long as the target is free. -/
theorem renamed_renamed (hsource : IsCanonical source) (htarget : IsCanonical target)
    (hpath : IsCanonical path) (hfree : isWithin path target = false) :
    renamed target source (renamed source target path) = path := by
  by_cases hin : isWithin path source = true
  · rw [renamed_of_isWithin hin, renamed_of_isWithin (isWithin_moved hsource htarget hpath hin),
      moved_moved hsource htarget hpath hin]
  · rw [Bool.not_eq_true] at hin
    rw [renamed_of_not_isWithin hin, renamed_of_not_isWithin hfree]

end Path

namespace Store

variable {store middle done : Store} {source target : String} {name name' : String → String}

/-- The directories and files of `done` are those of `store` under the names that `name` gives them,
the files with their texts, types and identities, and the working directory is renamed too. -/
structure Renames (name : String → String) (store done : Store) : Prop where
  mem_directories_iff : ∀ q, q ∈ done.directories ↔ ∃ p ∈ store.directories, name p = q
  get?_eq_some_iff : ∀ q file, done.files.get? q = some file ↔
    ∃ p, store.files.get? p = some file ∧ name p = q
  cwd_eq : done.cwd = name store.cwd

namespace Renames

theorem trans (h : store.Renames name middle) (h' : middle.Renames name' done) :
    store.Renames (name' ∘ name) done where
  mem_directories_iff q := by
    rw [h'.mem_directories_iff]
    constructor
    · rintro ⟨m, hm, rfl⟩
      obtain ⟨p, hp, rfl⟩ := (h.mem_directories_iff m).1 hm
      exact ⟨p, hp, rfl⟩
    · rintro ⟨p, hp, rfl⟩
      exact ⟨name p, (h.mem_directories_iff _).2 ⟨p, hp, rfl⟩, rfl⟩
  get?_eq_some_iff q file := by
    rw [h'.get?_eq_some_iff]
    constructor
    · rintro ⟨m, hm, rfl⟩
      obtain ⟨p, hp, rfl⟩ := (h.get?_eq_some_iff m file).1 hm
      exact ⟨p, hp, rfl⟩
    · rintro ⟨p, hp, rfl⟩
      exact ⟨name p, (h.get?_eq_some_iff _ file).2 ⟨p, hp, rfl⟩, rfl⟩
  cwd_eq := by rw [h'.cwd_eq, h.cwd_eq, Function.comp_apply]

/-- A renaming that gives every path its own name changes nothing. -/
theorem eq_of_forall_eq (h : store.Renames name done) (hwell : WellFormed store)
    (hname : ∀ p, p ∈ store.files.keys ∨ p ∈ store.directories → name p = p) :
    (∀ d, d ∈ done.directories ↔ d ∈ store.directories) ∧
      (∀ p, done.files.get? p = store.files.get? p) ∧ done.cwd = store.cwd := by
  refine ⟨fun d => ?_, fun p => Option.ext fun file => ?_, ?_⟩
  · rw [h.mem_directories_iff]
    constructor
    · rintro ⟨p, hp, rfl⟩
      rwa [hname p (.inr hp)]
    · exact fun hd => ⟨d, hd, hname d (.inr hd)⟩
  · rw [h.get?_eq_some_iff]
    constructor
    · rintro ⟨q, hq, rfl⟩
      rwa [hname q (.inl (Table.mem_keys_of_get? hq))]
    · exact fun hp => ⟨p, hp, hname p (.inl (Table.mem_keys_of_get? hp))⟩
  · rw [h.cwd_eq, hname _ (.inr hwell.cwd_mem)]

end Renames

section

variable (h : WellFormed store) (hr : store.Relocatable source target)
  (htarget : Path.IsCanonical target)
include h hr htarget

/-- **A move of a directory is a renaming.** -/
theorem Relocated.renames (hdone : store.Relocated source target true done) :
    store.Renames (Path.renamed source target) done := by
  have hsource := hr.isCanonical_source h
  refine ⟨fun q => ?_, fun q file => ?_, ?_⟩
  · rw [hdone.mem_directories_iff]
    constructor
    · rintro (⟨p, hp, hin, rfl⟩ | ⟨hq, hout⟩)
      · exact ⟨p, hp, Path.renamed_of_isWithin hin⟩
      · exact ⟨q, hq, Path.renamed_of_not_isWithin (hout rfl)⟩
    · rintro ⟨p, hp, rfl⟩
      by_cases hin : Path.isWithin p source = true
      · exact .inl ⟨p, hp, hin, (Path.renamed_of_isWithin hin).symm⟩
      · rw [Bool.not_eq_true] at hin
        rw [Path.renamed_of_not_isWithin hin]
        exact .inr ⟨hp, fun _ => hin⟩
  · constructor
    · intro hq
      have hkey := Table.mem_keys_of_get? hq
      have hcanonical := hdone.wellFormed.canonical q (.inl hkey)
      rw [hdone.get?_eq q hcanonical] at hq
      split_ifs at hq with hin hout
      · -- what is within the target comes from the same place within the source
        have hback := Path.isWithin_moved htarget hsource hcanonical hin
        refine ⟨Path.moved target source q, by simpa [relocated] using hq, ?_⟩
        rw [Path.renamed_of_isWithin hback, Path.moved_moved htarget hsource hcanonical hin]
      · exact ⟨q, hq, Path.renamed_of_not_isWithin (by simpa using hout)⟩
    · rintro ⟨p, hp, rfl⟩
      have hkey := Table.mem_keys_of_get? hp
      have hcanonical := h.canonical p (.inl hkey)
      by_cases hin : Path.isWithin p source = true
      · have hplace := hr.place_within h htarget (.inl hkey) hin
        rw [Path.renamed_of_isWithin hin, hdone.get?_eq _ hplace.1, if_pos hplace.2,
          Path.moved_moved hsource htarget hcanonical hin, hp]
        rfl
      · have hfree := hr.outside_target h htarget (.inl hkey)
        rw [Bool.not_eq_true] at hin
        rw [Path.renamed_of_not_isWithin hin, hdone.get?_eq p hcanonical]
        simpa [hin, hfree] using hp
  · rw [hdone.cwd_eq, Bool.true_and]
    rfl

/-- A move leaves nothing within the source. -/
theorem Relocated.emptied (hdone : store.Relocated source target true done) {path : String}
    (hin : Path.isWithin path source = true) :
    path ∉ done.directories ∧ path ∉ done.files.keys := by
  -- what has come to the target lies outside the source
  have houtside : ∀ p, p ∈ done.files.keys ∨ p ∈ done.directories →
      Path.isWithin p target = true → Path.isWithin p source = false := fun p hp =>
    hr.outside_source h htarget (hdone.wellFormed.canonical p hp)
  constructor
  · intro hdir
    obtain ⟨e, he, hein, rfl⟩ | ⟨-, hout⟩ := (hdone.mem_directories_iff path).1 hdir
    · simp [houtside _ (.inr hdir) (hr.place_within h htarget (.inr he) hein).2] at hin
    · simp [hout rfl] at hin
  · intro hkey
    cases htin : Path.isWithin path target with
    | true => simp [houtside path (.inl hkey) htin] at hin
    | false =>
      exact hdone.not_mem_keys (hdone.wellFormed.canonical path (.inl hkey)) htin hin hkey

/-- Nothing stands in the way of the move back. -/
theorem Relocated.relocatable_back (hdone : store.Relocated source target true done) :
    done.Relocatable target source := by
  have hsource := hr.isCanonical_source h
  have hrenames := hdone.renames h hr htarget
  have hempty := hdone.emptied h hr htarget (Path.isWithin_self source)
  have habove : Path.isWithin (Path.parent source) source = false :=
    Path.isWithin_eq_false_of_isBelow hsource (Path.isCanonical_parent hsource)
      (Path.isBelow_parent hsource hr.source_ne_root)
  refine ⟨fun he => hr.target_not_directory (he ▸ h.root_mem), ?_,
    hr.outside_target h htarget (.inr hr.source_mem), hempty.1, hempty.2, ?_⟩
  · refine (hrenames.mem_directories_iff target).2 ⟨source, hr.source_mem, ?_⟩
    rw [Path.renamed_of_isWithin (Path.isWithin_self source), Path.moved_self]
  · refine (hrenames.mem_directories_iff _).2 ⟨Path.parent source, ?_, ?_⟩
    · exact h.parent_mem (.inr hr.source_mem) hr.source_ne_root
    · exact Path.renamed_of_not_isWithin habove

/-- **A move back restores the store.** -/
theorem Relocated.restored (hdone : store.Relocated source target true done) :
    ∃ back, done.moveDirectory target source = (back, none) ∧
      (∀ d, d ∈ back.directories ↔ d ∈ store.directories) ∧
      (∀ p, back.files.get? p = store.files.get? p) ∧ back.cwd = store.cwd := by
  have hsource := hr.isCanonical_source h
  have hback := hdone.relocatable_back h hr htarget
  obtain ⟨back, hmove, hrelocated⟩ := relocated_moveDirectory hdone.wellFormed hback hsource
  have hrenames := (hdone.renames h hr htarget).trans
    (hrelocated.renames hdone.wellFormed hback hsource)
  refine ⟨back, hmove, hrenames.eq_of_forall_eq h fun p hp => ?_⟩
  exact Path.renamed_renamed hsource htarget (h.canonical p hp) (hr.outside_target h htarget hp)

end

/-! ## Copies -/

/-- `done` has what `store` has, and within `target` a copy of what `store` has within `source`. The
copies of files have no identity. -/
structure Duplicates (store : Store) (source target : String) (done : Store) : Prop where
  mem_directories_iff : ∀ q, q ∈ done.directories ↔ q ∈ store.directories ∨
    ∃ p ∈ store.directories, Path.isWithin p source = true ∧ Path.moved source target p = q
  get?_eq_some_iff : ∀ q file, done.files.get? q = some file ↔ store.files.get? q = some file ∨
    ∃ p original, store.files.get? p = some original ∧ Path.isWithin p source = true ∧
      Path.moved source target p = q ∧ file = { original with nodeId := none }
  cwd_eq : done.cwd = store.cwd

theorem Relocated.duplicates (h : WellFormed store) (hr : store.Relocatable source target)
    (htarget : Path.IsCanonical target) (hdone : store.Relocated source target false done) :
    store.Duplicates source target done := by
  have hsource := hr.isCanonical_source h
  have hkey {s : Store} {p : String} {file : File} (hp : s.files.get? p = some file) :
      p ∈ s.files.keys := Table.mem_keys_of_get? hp
  refine ⟨fun q => ?_, fun q file => ?_, by simpa using hdone.cwd_eq⟩
  · simpa [or_comm] using hdone.mem_directories_iff q
  · constructor
    · intro hq
      have hcanonical := hdone.wellFormed.canonical q (.inl (hkey hq))
      rw [hdone.get?_eq q hcanonical] at hq
      split_ifs at hq with hin hmove
      · obtain ⟨original, horiginal, rfl⟩ := Option.map_eq_some_iff.1 hq
        exact .inr ⟨_, original, horiginal, Path.isWithin_moved htarget hsource hcanonical hin,
          Path.moved_moved htarget hsource hcanonical hin, rfl⟩
      · exact .inl hq
    · rintro (hq | ⟨p, original, hp, hin, rfl, rfl⟩)
      · rw [hdone.get?_eq q (h.canonical q (.inl (hkey hq)))]
        simpa [hr.outside_target h htarget (.inl (hkey hq))] using hq
      · have hplace := hr.place_within h htarget (.inl (hkey hp)) hin
        rw [hdone.get?_eq _ hplace.1, if_pos hplace.2,
          Path.moved_moved hsource htarget (h.canonical p (.inl (hkey hp))) hin, hp]
        rfl

/-! ## Both relocations -/

/-- A relocation succeeds exactly if nothing stands in its way. -/
theorem snd_perform_relocation_iff (h : WellFormed store) (htarget : Path.IsCanonical target)
    (move : Bool) :
    (store.perform (.relocation move source target)).2 = none ↔
      store.Relocatable source target := by
  rw [← relocationError?_eq_none_iff]
  cases hfault : store.relocationError? source target with
  | some fault => simp [perform_relocation_of_error move hfault]
  | none =>
    obtain ⟨done, hdone, -⟩ :=
      relocated_perform h (relocationError?_eq_none_iff.1 hfault) htarget move
    simp [hdone]

/-- **Relocating a directory is renaming.** A copy and a move succeed exactly if the source is a
directory other than the root, the target lies outside it and is free, and the parent of the target
is a directory. A move then gives every path within the source its place within the target and
changes nothing else, so a move back restores all directories and files and the working directory.
A copy adds what the move would have renamed, without the identities of the files. -/
theorem relocation_renames (h : WellFormed store) (htarget : Path.IsCanonical target) :
    ((store.copyDirectory source target).2 = none ↔ store.Relocatable source target) ∧
    ((store.moveDirectory source target).2 = none ↔ store.Relocatable source target) ∧
    (store.Relocatable source target →
      (∃ copied, store.copyDirectory source target = (copied, none) ∧
        store.Duplicates source target copied) ∧
      ∃ moved, store.moveDirectory source target = (moved, none) ∧
        store.Renames (Path.renamed source target) moved ∧
        (∀ p, Path.isWithin p source = true →
          p ∉ moved.directories ∧ p ∉ moved.files.keys) ∧
        ∃ back, moved.moveDirectory target source = (back, none) ∧
          (∀ d, d ∈ back.directories ↔ d ∈ store.directories) ∧
          (∀ p, back.files.get? p = store.files.get? p) ∧ back.cwd = store.cwd) := by
  refine ⟨snd_perform_relocation_iff h htarget false, snd_perform_relocation_iff h htarget true,
    fun hr => ⟨?_, ?_⟩⟩
  · obtain ⟨copied, hcopy, hdone⟩ := relocated_copyDirectory h hr htarget
    exact ⟨copied, hcopy, hdone.duplicates h hr htarget⟩
  · obtain ⟨moved, hmove, hdone⟩ := relocated_moveDirectory h hr htarget
    exact ⟨moved, hmove, hdone.renames h hr htarget, fun p => hdone.emptied h hr htarget,
      hdone.restored h hr htarget⟩

theorem relocation_renames_lookalike :
    lookalike.WellFormed ∧ Path.IsCanonical "/ab/e" ∧ lookalike.Relocatable "/a" "/ab/e" ∧
      ∃ moved, lookalike.moveDirectory "/a" "/ab/e" = (moved, none) ∧
        moved.files.get? "/ab/e/b/c" = some ⟨"x", some "text/plain", some "1"⟩ ∧
        moved.files.get? "/ab/c" = some ⟨"y", none, some "2"⟩ ∧ moved.cwd = "/ab/e/b" := by
  have htarget : Path.IsCanonical "/ab/e" := by decide
  have hr : lookalike.Relocatable "/a" "/ab/e" := by
    constructor <;> decide
  obtain ⟨-, -, hrelocation⟩ := @relocation_renames _ "/a" _ wellFormed_lookalike htarget
  obtain ⟨-, moved, hmove, hrenames, -⟩ := hrelocation hr
  refine ⟨wellFormed_lookalike, htarget, hr, moved, hmove, ?_, ?_, ?_⟩
  · exact (hrenames.get?_eq_some_iff _ _).2 ⟨"/a/b/c", by decide, by decide⟩
  · exact (hrenames.get?_eq_some_iff _ _).2 ⟨"/ab/c", by decide, by decide⟩
  · exact hrenames.cwd_eq.trans (by decide)

end Store
end EditorShell

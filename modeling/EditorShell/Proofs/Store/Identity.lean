import EditorShell.Proofs.Store.Atomic

/-!
# Who carries which identity

The editor gives a file an identity when a tree is imported, and only a move takes it elsewhere: a
write leaves it where it is, a copy goes without, and what is removed takes it along. So if no two
files carry the same identity, then no operation makes two of them carry it, and none invents one
(`Carries.perform`), and neither does a run of operations (`identities_performAll`). Each operation
answers for one question: where did what a file carries come from (`Carries.of_origin`)?
-/

namespace EditorShell
namespace Store

variable {store done : Store} {source target path : String} {ids : List String}

/-- The identity that the file at `path` carries. -/
def identity? (store : Store) (path : String) : Option String :=
  (store.files.get? path).bind (·.nodeId)

theorem identity?_eq_some_iff {i : String} :
    store.identity? path = some i ↔
      ∃ file, store.files.get? path = some file ∧ file.nodeId = some i :=
  Option.bind_eq_some_iff

theorem mem_keys_of_identity? {i : String} (h : store.identity? path = some i) :
    path ∈ store.files.keys := by
  obtain ⟨file, hfile, -⟩ := identity?_eq_some_iff.1 h
  exact Table.mem_keys_of_get? hfile

/-- A move of a directory leaves no file within the source. -/
theorem Relocated.not_mem_keys (h : store.Relocated source target true done)
    (hpath : Path.IsCanonical path) (hout : Path.isWithin path target = false)
    (hin : Path.isWithin path source = true) : path ∉ done.files.keys := by
  rw [← Table.get?_eq_none_iff, h.get?_eq path hpath]
  simp [hout, hin]

/-- The identities that files carry are among `ids`, and no two files carry the same one. -/
structure Carries (store : Store) (ids : List String) : Prop where
  mem : ∀ p i, store.identity? p = some i → i ∈ ids
  unique : ∀ p q i, store.identity? p = some i → store.identity? q = some i → p = q

namespace Carries

/-- Whatever a file carries now was carried by a file before, and by no two now what one file
carried then. -/
theorem of_origin (h : store.Carries ids) (origin : String → String)
    (horigin : ∀ p i, done.identity? p = some i → store.identity? (origin p) = some i)
    (hinj : ∀ p q, p ∈ done.files.keys → q ∈ done.files.keys → origin p = origin q → p = q) :
    done.Carries ids where
  mem p i hp := h.mem _ i (horigin p i hp)
  unique p q i hp hq := hinj p q (mem_keys_of_identity? hp) (mem_keys_of_identity? hq)
    (h.unique _ _ i (horigin p i hp) (horigin q i hq))

/-- Every file carries what it carried before, if anything. -/
theorem of_le (h : store.Carries ids)
    (hle : ∀ p i, done.identity? p = some i → store.identity? p = some i) : done.Carries ids :=
  h.of_origin id hle fun _ _ _ _ => id

/-! ## Operations on one path -/

theorem attempt (h : store.Carries ids) {result : Except StoreError Store}
    (hok : ∀ done, result = .ok done → done.Carries ids) : (store.attempt result).1.Carries ids :=
  attempt_of (P := (·.Carries ids)) h hok

theorem changeDirectory (h : store.Carries ids) (hok : store.changeDirectory path = .ok done) :
    done.Carries ids := by
  obtain ⟨-, rfl⟩ := changeDirectory_eq_ok_iff.1 hok
  exact h.of_le fun _ _ => id

theorem createDirectory (h : store.Carries ids) {parents : Bool}
    (hok : store.createDirectory path parents = .ok done) : done.Carries ids := by
  obtain ⟨-, ⟨-, rfl⟩ | ⟨-, -, rfl⟩⟩ := createDirectory_eq_ok hok
  · exact h
  · exact h.of_le fun p i hp => by simpa [identity?] using hp

/-- A file that is written over keeps its identity, and a new one has none. -/
theorem writeFile (h : store.Carries ids) {content : String} {append : Bool}
    {mimeType : Option String} (hok : store.writeFile path content append mimeType = .ok done) :
    done.Carries ids := by
  obtain ⟨-, rfl⟩ := writeFile_eq_ok_iff.1 hok
  refine h.of_le fun p i hp => ?_
  simp only [identity?, get?_writeIn] at hp ⊢
  split_ifs at hp with heq
  · subst heq
    cases hfile : store.files.get? p <;> simp_all [updated]
  · exact hp

theorem touch (h : store.Carries ids) (hok : store.touch path = .ok done) : done.Carries ids := by
  unfold Store.touch at hok
  split_ifs at hok
  · cases hok
    exact h
  · exact h.writeFile hok

theorem deleteFile (h : store.Carries ids) (hok : store.deleteFile path = .ok done) :
    done.Carries ids := by
  obtain ⟨-, rfl⟩ := deleteFile_eq_ok_iff.1 hok
  refine h.of_le fun p i hp => ?_
  simp only [identity?, Table.get?_erase] at hp
  split_ifs at hp
  · cases hp
  · exact hp

theorem deleteDirectory (h : store.Carries ids) {recursive : Bool}
    (hok : store.deleteDirectory path recursive = .ok done) : done.Carries ids := by
  obtain ⟨-, rfl⟩ := deleteDirectory_eq_ok_iff.1 hok
  refine h.of_le fun p i hp => ?_
  simp only [identity?, without, get?_filesOutside] at hp
  split_ifs at hp
  · cases hp
  · exact hp

theorem copyFile (h : store.Carries ids) (hok : store.copyFile source target = .ok done) :
    done.Carries ids := by
  obtain ⟨file, -, hok⟩ := copyFile_eq_ok_iff.1 hok
  split_ifs at hok
  · exact hok ▸ h
  · exact h.writeFile hok

/-! ## Moves and relocations -/

/-- What is carried at the target was carried at the source. -/
theorem moveFile (h : store.Carries ids) (hwell : WellFormed store) :
    (store.moveFile source target).1.Carries ids := by
  cases hcopy : store.copyFile source target with
  | error error =>
    simp only [Store.moveFile, hcopy]
    exact h
  | ok copied =>
    by_cases hsame : target = source
    · simp only [Store.moveFile, hcopy, if_pos hsame]
      exact h.copyFile hcopy
    obtain ⟨file, files, hfile, hmove, hget⟩ := moveFile_eq hwell hcopy hsame
    have hgone : source ∉ files.keys := Table.get?_eq_none_iff.1 (by simp [hget])
    rw [hmove]
    refine h.of_origin (fun p => if p = target then source else p) (fun p i hp => ?_)
      fun p q hp hq heq => ?_
    · simp only [identity?, hget] at hp ⊢
      split_ifs at hp with hps hpt
      · cases hp
      · rwa [if_pos hpt, hfile]
      · rwa [if_neg hpt]
    · have hpne : p ≠ source := fun he => hgone (he ▸ hp)
      have hqne : q ≠ source := fun he => hgone (he ▸ hq)
      split_ifs at heq with hpt hqt hqt
      · exact hpt.trans hqt.symm
      · exact absurd heq.symm hqne
      · exact absurd heq hpne
      · exact heq

/-- A copy of a directory carries nothing. -/
theorem of_copyDirectory (h : store.Carries ids)
    (hdone : store.Relocated source target false done) : done.Carries ids := by
  refine h.of_le fun p i hp => ?_
  have hcanonical := hdone.wellFormed.canonical p (.inl (mem_keys_of_identity? hp))
  rw [identity?, hdone.get?_eq p hcanonical] at hp
  split_ifs at hp
  · cases hfile : store.files.get? (Path.moved target source p) <;>
      simp [hfile, Store.relocated] at hp
  · cases hp
  · exact hp

/-- What is carried within the target was carried at the same place within the source. -/
theorem of_moveDirectory (h : store.Carries ids) (hsource : Path.IsCanonical source)
    (htarget : Path.IsCanonical target) (hdone : store.Relocated source target true done) :
    done.Carries ids := by
  have hcanonical : ∀ p ∈ done.files.keys, Path.IsCanonical p :=
    fun p hp => hdone.wellFormed.canonical p (.inl hp)
  refine h.of_origin (fun p => if Path.isWithin p target then Path.moved target source p else p)
    (fun p i hp => ?_) fun p q hp hq heq => ?_
  · rw [identity?, hdone.get?_eq p (hcanonical p (mem_keys_of_identity? hp))] at hp
    split_ifs at hp with hin hout
    · rw [if_pos hin, identity?]
      simpa [Option.bind_map, Function.comp_def, Store.relocated] using hp
    · cases hp
    · rwa [if_neg hin]
  · -- the places within the source from which the files within the target come are empty now
    have hempty : ∀ p ∈ done.files.keys, ∀ q ∈ done.files.keys, Path.isWithin p target = true →
        Path.isWithin q target ≠ true → Path.moved target source p ≠ q := by
      rintro p hp q hq hin hout rfl
      exact hdone.not_mem_keys (hcanonical _ hq) (by simpa using hout)
        (Path.isWithin_moved htarget hsource (hcanonical p hp) hin) hq
    split_ifs at heq with hpt hqt hqt
    · exact (Path.moved_inj htarget hsource (hcanonical p hp) (hcanonical q hq) hpt hqt).1 heq
    · exact absurd heq (hempty p hp q hq hpt hqt)
    · exact absurd heq.symm (hempty q hq p hp hqt hpt)
    · exact heq

theorem perform_relocation {move : Bool} (h : store.Carries ids) (hwell : WellFormed store)
    (htarget : Path.IsCanonical target) :
    (store.perform (.relocation move source target)).1.Carries ids := by
  cases hfault : store.relocationError? source target with
  | some fault =>
    rw [perform_relocation_of_error move hfault]
    exact h
  | none =>
    have hr := relocationError?_eq_none_iff.1 hfault
    obtain ⟨done, hdone, hrelocated⟩ := relocated_perform hwell hr htarget move
    rw [hdone]
    cases move with
    | false => exact h.of_copyDirectory hrelocated
    | true => exact h.of_moveDirectory (hr.isCanonical_source hwell) htarget hrelocated

/-! ## Every operation -/

/-- **No operation makes two files carry one identity, and none invents one.** -/
theorem perform (h : store.Carries ids) (hwell : WellFormed store) {operation : Operation}
    (hop : operation.IsCanonical) : (store.perform operation).1.Carries ids := by
  cases operation with
  | changeDirectory path => exact h.attempt fun _ => h.changeDirectory
  | createDirectory path parents => exact h.attempt fun _ => h.createDirectory
  | writeFile path content append mimeType => exact h.attempt fun _ => h.writeFile
  | touch path => exact h.attempt fun _ => h.touch
  | deleteFile path => exact h.attempt fun _ => h.deleteFile
  | deleteDirectory path recursive => exact h.attempt fun _ => h.deleteDirectory
  | copyFile source target => exact h.attempt fun _ => h.copyFile
  | moveFile source target => exact h.moveFile hwell
  | copyDirectory source target =>
    exact @perform_relocation _ _ _ _ false h hwell (hop target (by simp [Operation.paths]))
  | moveDirectory source target =>
    exact @perform_relocation _ _ _ _ true h hwell (hop target (by simp [Operation.paths]))
  | clear => exact h.of_le fun p i hp => by cases hp

/-! ## Runs -/

theorem of_edits (h : store.Carries ids) (hwell : WellFormed store) (hedits : store.Edits done) :
    done.Carries ids := by
  induction hedits with
  | refl => exact h
  | perform operation hmiddle hop ih =>
    have hmid := hmiddle.wellFormed hwell
    exact ih.perform hmid (hop hmid)

/-- What a store carries it carries through a run, whether the operations succeed or not. -/
theorem performAll (h : store.Carries ids) (hwell : WellFormed store) {operations : List Operation}
    (hops : ∀ operation ∈ operations, operation.IsCanonical) :
    (store.performAll operations).Carries ids := by
  induction operations generalizing store with
  | nil => exact h
  | cons operation operations ih =>
    have hop := hops operation List.mem_cons_self
    exact ih (h.perform hwell hop) (hwell.perform hop) fun next hnext =>
      hops next (List.mem_cons_of_mem operation hnext)

end Carries

/-- The identities that files carry. -/
def identities (store : Store) : List String := store.files.keys.filterMap store.identity?

theorem mem_identities {i : String} :
    i ∈ store.identities ↔ ∃ p, store.identity? p = some i := by
  rw [identities, List.mem_filterMap]
  constructor
  · rintro ⟨p, -, hp⟩
    exact ⟨p, hp⟩
  · rintro ⟨p, hp⟩
    exact ⟨p, mem_keys_of_identity? hp, hp⟩

/-- **Identities are neither duplicated nor invented.** If no two files carry the same one, then
after any operations on canonical paths no two files do, and each one that a file carries then was
carried by a file before. It has no part in this which of the operations fail. -/
theorem identities_performAll (hwell : WellFormed store)
    (hunique : ∀ p q i, store.identity? p = some i → store.identity? q = some i → p = q)
    (operations : List Operation) (hops : ∀ operation ∈ operations, operation.IsCanonical) :
    (∀ p q i, (store.performAll operations).identity? p = some i →
      (store.performAll operations).identity? q = some i → p = q) ∧
      ∀ p i, (store.performAll operations).identity? p = some i →
        ∃ q, store.identity? q = some i := by
  have hcarries : store.Carries store.identities :=
    ⟨fun p i hp => mem_identities.2 ⟨p, hp⟩, hunique⟩
  have hrun := hcarries.performAll hwell hops
  exact ⟨hrun.unique, fun p i hp => mem_identities.1 (hrun.mem p i hp)⟩

/-- A directory with the working directory and a file below it, and one whose path starts with the
same characters. -/
def lookalike : Store where
  directories := ["/", "/a", "/a/b", "/ab"]
  files := Table.ofList [("/a/b/c", ⟨"x", some "text/plain", some "1"⟩),
    ("/ab/c", ⟨"y", none, some "2"⟩), ("/ab/d", ⟨"", none, none⟩)]
  cwd := "/a/b"
  revision := 7

theorem keys_lookalike : lookalike.files.keys = ["/a/b/c", "/ab/c", "/ab/d"] := by decide

theorem wellFormed_lookalike : lookalike.WellFormed := by decide

/-- A directory is moved and a file from it over another one, which is then copied; the attempt to
remove the root fails. -/
def reshuffling : List Operation :=
  [.moveDirectory "/a" "/ab/a", .moveFile "/ab/a/b/c" "/ab/c", .deleteDirectory "/" true,
    .copyFile "/ab/c" "/ab/d"]

theorem identities_performAll_lookalike :
    lookalike.WellFormed ∧
      (∀ p q i, lookalike.identity? p = some i → lookalike.identity? q = some i → p = q) ∧
      (∀ operation ∈ reshuffling, operation.IsCanonical) ∧
      (∀ p q, (lookalike.performAll reshuffling).identity? p = some "1" →
        (lookalike.performAll reshuffling).identity? q = some "1" → p = q) ∧
      ∀ p, (lookalike.performAll reshuffling).identity? p ≠ some "3" := by
  have hpaths : ∀ p i, lookalike.identity? p = some i → p ∈ ["/a/b/c", "/ab/c", "/ab/d"] :=
    fun p i hp => keys_lookalike ▸ mem_keys_of_identity? hp
  have hunique : ∀ p q i, lookalike.identity? p = some i → lookalike.identity? q = some i →
      p = q := by
    have hall : ∀ p ∈ ["/a/b/c", "/ab/c", "/ab/d"], ∀ q ∈ ["/a/b/c", "/ab/c", "/ab/d"],
        (lookalike.identity? p).isSome = true → lookalike.identity? p = lookalike.identity? q →
          p = q := by decide
    exact fun p q i hp hq =>
      hall p (hpaths p i hp) q (hpaths q i hq) (by rw [hp]; rfl) (hp.trans hq.symm)
  have hcanonical : ∀ p ∈ ["/", "/a", "/ab/a", "/ab/a/b/c", "/ab/c", "/ab/d"],
      Path.IsCanonical p := by decide
  have hops : ∀ operation ∈ reshuffling, operation.IsCanonical := by
    intro operation hop path hpath
    refine hcanonical path ?_
    revert operation
    simp only [reshuffling, Operation.paths, List.mem_cons]
    grind
  obtain ⟨hsame, horigin⟩ := identities_performAll wellFormed_lookalike hunique reshuffling hops
  refine ⟨wellFormed_lookalike, hunique, hops, fun p q => hsame p q "1", fun p hp => ?_⟩
  obtain ⟨q, hq⟩ := horigin p "3" hp
  have hnone : ∀ q ∈ ["/a/b/c", "/ab/c", "/ab/d"], lookalike.identity? q ≠ some "3" := by decide
  exact hnone q (hpaths q "3" hq) hq

end Store
end EditorShell

import EditorShell.Proofs.Store.Parallel
import EditorShell.Proofs.Store.Run

/-!
# Operations are local

An operation whose paths lie below a directory `d` sees of a store what is at and below `d`, and
changes of it what is below `d` (`Twins.perform`). It is compared with itself on two stores that
agree within `d`. Although every operation looks through all directories and all files, what it
looks for lies within one of its paths; what it asks for besides, a parent or what is missing above
a path, lies within `d` or is a directory in both stores. Nothing of this needs a path to be
canonical, only that it begins with `d`.
-/

namespace EditorShell

/-- All paths that the operation names lie below `d`. Neither a change of the working directory nor
the removal of everything counts as such an operation. -/
def Operation.WorksBelow (d : String) : Operation → Prop
  | .changeDirectory _ | .clear => False
  | operation => ∀ path ∈ operation.paths, Path.isBelow path d = true

namespace Store

variable {d path source target : String} {s t s' t' : Store}

/-- Two stores that agree within a directory `d` other than the root. -/
structure Twins (d : String) (s t : Store) : Prop where
  canonical : Path.IsCanonical d
  ne_root : d ≠ Path.root
  left : s.Hosts d
  right : t.Hosts d
  agree : AgreeWithin d s t

/-- A change below `d` leaves `d` where it is. -/
theorem ChangedBelow.hosts_self (hd : Path.IsCanonical d) (hs : s.Hosts d)
    (h : ChangedBelow d s t) : t.Hosts d := by
  refine h.hosts hs (Path.isBelow_self d) fun a ha => ?_
  have habove := (Path.mem_ancestors_iff hd (Path.isCanonical_of_mem_ancestors hd ha)).1 ha
  exact Path.isBelow_eq_false
    (Path.isWithin_eq_false_of_isBelow hd (Path.isCanonical_of_mem_ancestors hd ha) habove)

namespace Twins

theorem next (h : Twins d s t) (hdone : Parallel d s t s' t') : Twins d s' t' where
  canonical := h.canonical
  ne_root := h.ne_root
  left := hdone.left.hosts_self h.canonical h.left
  right := hdone.right.hosts_self h.canonical h.right
  agree := hdone.agree

theorem isWithin_parent (h : Twins d s t) (hpath : Path.isBelow path d = true) :
    Path.isWithin (Path.parent path) d = true :=
  Path.isWithin_parent_of_isBelow h.canonical h.ne_root hpath

/-- What lies within a path below `d` lies below `d`. -/
theorem isBelow (h : Twins d s t) (hpath : Path.isBelow path d = true) {p : String}
    (hp : Path.isWithin p path = true) : Path.isBelow p d = true :=
  Path.isBelow_of_isWithin_of_isBelow h.ne_root (Path.ne_root_of_isBelow h.canonical hpath) hp hpath

/-! ## Operations on one path -/

section

variable (h : Twins d s t) (hpath : Path.isBelow path d = true)
include h hpath

theorem writeFile (content : String) (append : Bool) (mimeType : Option String) :
    Alike d s t (s.writeFile path content append mimeType)
      (t.writeFile path content append mimeType) := by
  have hin := Path.isWithin_of_isBelow hpath
  have hout (store : Store) (p : String) (hp : Path.isBelow p d = false) :
      (writeIn store.files path content append mimeType).get? p = store.files.get? p := by
    rw [get?_writeIn, if_neg (Path.ne_of_isBelow hp hpath)]
  unfold Store.writeFile
  rw [h.agree.isDirectory_eq hin, h.agree.isDirectory_eq (h.isWithin_parent hpath)]
  refine .guard (.guard (.ok ?_))
  refine .of_files h.agree 1 ⟨rfl, rfl, rfl⟩ ⟨rfl, rfl, rfl⟩ (hout s) (hout t) fun p hp => ?_
  simp only [get?_writeIn, h.agree.get?_eq path hin]
  rw [h.agree.get?_eq p (Path.isWithin_of_isBelow hp)]

theorem touch : Alike d s t (s.touch path) (t.touch path) := by
  have hin := Path.isWithin_of_isBelow hpath
  unfold Store.touch isTaken
  rw [h.agree.isDirectory_eq hin, h.agree.isFile_eq hin]
  split_ifs
  · exact .ok (.refl h.agree)
  · exact h.writeFile hpath "" false none

theorem deleteFile : Alike d s t (s.deleteFile path) (t.deleteFile path) := by
  have hin := Path.isWithin_of_isBelow hpath
  have hout (store : Store) (p : String) (hp : Path.isBelow p d = false) :
      (store.files.erase path).get? p = store.files.get? p := by
    rw [Table.get?_erase, if_neg (Path.ne_of_isBelow hp hpath)]
  unfold Store.deleteFile
  rw [h.agree.isDirectory_eq hin, h.agree.isFile_eq hin]
  refine .guard (.guard (.ok ?_))
  refine .of_files h.agree 1 ⟨rfl, rfl, rfl⟩ ⟨rfl, rfl, rfl⟩ (hout s) (hout t) fun p hp => ?_
  simp only [Table.get?_erase]
  rw [h.agree.get?_eq p (Path.isWithin_of_isBelow hp)]

/-- What is above `d` is a directory in both stores, so what is missing above a path below `d` is
missing in both and lies below `d` too. -/
theorem missing_eq :
    (Path.ancestors path).filter (!s.isDirectory ·) =
        (Path.ancestors path).filter (!t.isDirectory ·) ∧
      ∀ a ∈ (Path.ancestors path).filter (!t.isDirectory ·), Path.isBelow a d = true := by
  have hwhere : ∀ a ∈ Path.ancestors path, Path.isWithin a d = true ∨
      a ∈ s.directories ∧ a ∈ t.directories := by
    intro a ha
    rcases Path.mem_ancestors_of_isBelow h.canonical h.ne_root hpath ha with hwithin | habove
    · exact .inl hwithin
    · exact .inr ⟨h.left.ancestor_mem a habove, h.right.ancestor_mem a habove⟩
  constructor
  · refine List.filter_congr fun a ha => ?_
    rcases hwhere a ha with hwithin | ⟨hs, ht⟩
    · rw [h.agree.isDirectory_eq hwithin]
    · rw [isDirectory_iff.2 hs, isDirectory_iff.2 ht]
  · intro a ha
    obtain ⟨hmem, hnot⟩ := List.mem_filter.1 ha
    rcases hwhere a hmem with hwithin | ⟨-, ht⟩
    · rcases Path.isWithin_iff.1 hwithin with rfl | hbelow
      · simp [h.right.mem] at hnot
      · exact hbelow
    · simp [ht] at hnot

theorem createDirectory (parents : Bool) :
    Alike d s t (s.createDirectory path parents) (t.createDirectory path parents) := by
  have hin := Path.isWithin_of_isBelow hpath
  obtain ⟨hmissing, hbelow⟩ := h.missing_eq hpath
  unfold Store.createDirectory
  rw [h.agree.isDirectory_eq hin, h.agree.isFile_eq hin]
  simp only [hmissing]
  generalize (Path.ancestors path).filter (!t.isDirectory ·) = missing at hbelow
  have hfind : missing.find? s.isFile = missing.find? t.isFile := by
    rw [← List.head?_filter, ← List.head?_filter]
    congr 1
    exact List.filter_congr fun a ha => h.agree.isFile_eq (Path.isWithin_of_isBelow (hbelow a ha))
  rw [hfind]
  refine .guard ?_
  split_ifs
  · exact .ok (.refl h.agree)
  · exact .error _
  · exact .error _
  · split
    · exact .error _
    · refine .ok (.addDirectories h.agree fun p hp => ?_)
      rcases List.mem_append.1 hp with hp | hp
      · exact hbelow p hp
      · rwa [List.mem_singleton.1 hp]

/-! ## Directories with all they hold -/

/-- The same files lie below a path below `d`. -/
theorem perm_filesBelow : (s.filesBelow path).Perm (t.filesBelow path) := by
  refine (List.perm_ext_iff_of_nodup (s.files.nodup.filter _) (t.files.nodup.filter _)).2
    fun p => ?_
  simp only [List.mem_filter]
  refine and_congr_left fun hp => ?_
  have hbelow := h.isBelow hpath (Path.isWithin_of_isBelow hp)
  exact h.agree.mem_keys_iff (Path.isWithin_of_isBelow hbelow)

/-- The same directories lie within a path below `d`. -/
theorem perm_directories {within : String → Bool}
    (hwithin : ∀ p, within p = true → Path.isWithin p path = true) :
    (s.directories.filter within).Perm (t.directories.filter within) := by
  refine (List.perm_ext_iff_of_nodup (h.left.nodup.filter _) (h.right.nodup.filter _)).2
    fun p => ?_
  simp only [List.mem_filter]
  refine and_congr_left fun hp => ?_
  have hbelow := h.isBelow hpath (hwithin p hp)
  exact h.agree.mem_iff p (Path.isWithin_of_isBelow hbelow)

theorem perm_directoriesBelow : (s.directoriesBelow path).Perm (t.directoriesBelow path) :=
  h.perm_directories hpath fun _ => Path.isWithin_of_isBelow

theorem changedBelow_without (store : Store) : ChangedBelow d store (store.without path) := by
  have hout : ∀ p, Path.isBelow p d = false → Path.isWithin p path = false := by
    intro p hp
    rw [← Bool.not_eq_true] at hp ⊢
    intro hin
    exact hp (h.isBelow hpath hin)
  refine ⟨fun p hp => ?_, fun p hp => ?_, ?_, fun hn => hn.filter _⟩
  · simp [Store.without, hout p hp]
  · simp [Store.without, Path.isBelow_eq_false (hout p hp)]
  · by_cases hcwd : Path.isWithin store.cwd path = true
    · refine .inr ⟨Path.isWithin_of_isBelow (h.isBelow hpath hcwd), ?_⟩
      simpa [Store.without, hcwd] using h.isWithin_parent hpath
    · exact .inl (by simp [Store.without, hcwd])

theorem without : Parallel d s t (s.without path) (t.without path) := by
  refine ⟨h.changedBelow_without hpath s, h.changedBelow_without hpath t,
    ⟨fun p hp => ?_, fun p hp => ?_, fun hcwd => ?_⟩, ?_⟩
  · simp only [Store.without, List.mem_filter, h.agree.mem_iff p hp]
  · simp only [Store.without, get?_filesOutside, h.agree.get?_eq p hp]
  · by_cases hin : Path.isWithin s.cwd d = true ∨ Path.isWithin t.cwd d = true
    · simp only [Store.without, h.agree.cwd_eq hin]
    · -- neither working directory lies within `d`, so neither goes away
      have hstay (store : Store) (hstore : ¬Path.isWithin store.cwd d = true) :
          (store.without path).cwd = store.cwd := by
        have hout : ¬Path.isWithin store.cwd path = true := fun hp =>
          hstore (Path.isWithin_of_isBelow (h.isBelow hpath hp))
        simp [Store.without, hout]
      rw [not_or] at hin
      rw [hstay s hin.1, hstay t hin.2] at hcwd
      exact absurd hcwd (not_or.2 hin)
  · have hfiles := (h.perm_filesBelow hpath).length_eq
    have hdirs := (h.perm_directoriesBelow hpath).length_eq
    simp only [Store.without]
    omega

theorem deleteDirectory (recursive : Bool) :
    Alike d s t (s.deleteDirectory path recursive) (t.deleteDirectory path recursive) := by
  have hin := Path.isWithin_of_isBelow hpath
  have hfiles := (h.perm_filesBelow hpath).isEmpty_eq
  have hdirs := (h.perm_directoriesBelow hpath).isEmpty_eq
  unfold Store.deleteDirectory
  simp only [h.agree.isDirectory_eq hin, h.agree.isFile_eq hin, hfiles, hdirs]
  exact .guard (.guard (.guard (.guard (.ok (h.without hpath)))))

end

/-! ## Copying and moving -/

theorem copyFile (h : Twins d s t) (hsource : Path.isBelow source d = true)
    (htarget : Path.isBelow target d = true) :
    Alike d s t (s.copyFile source target) (t.copyFile source target) := by
  unfold Store.copyFile
  rw [h.agree.get?_eq source (Path.isWithin_of_isBelow hsource)]
  cases t.files.get? source with
  | none => exact .error _
  | some file =>
    simp only
    split_ifs
    · exact .ok (.refl h.agree)
    · exact h.writeFile htarget file.content false file.mimeType

theorem carryNodeId (h : Twins d s t) (hsource : Path.isBelow source d = true)
    (htarget : Path.isBelow target d = true) :
    Parallel d s t (s.carryNodeId source target) (t.carryNodeId source target) := by
  unfold Store.carryNodeId
  rw [h.agree.get?_eq source (Path.isWithin_of_isBelow hsource)]
  cases t.files.get? source with
  | none => exact .refl h.agree
  | some file =>
    have hout (store : Store) (p : String) (hp : Path.isBelow p d = false) :
        (store.setNodeId target file.nodeId).files.get? p = store.files.get? p := by
      rw [get?_setNodeId, if_neg (Path.ne_of_isBelow hp htarget)]
    refine .of_files h.agree 0 (by simp) (by simp) (hout s) (hout t) fun p hp => ?_
    rw [get?_setNodeId, get?_setNodeId, h.agree.get?_eq p (Path.isWithin_of_isBelow hp),
      h.agree.get?_eq target (Path.isWithin_of_isBelow htarget)]

theorem moveFile (h : Twins d s t) (hsource : Path.isBelow source d = true)
    (htarget : Path.isBelow target d = true) :
    AlikeAttempts d s t (s.moveFile source target) (t.moveFile source target) := by
  have hcopy := h.copyFile hsource htarget
  unfold Store.moveFile
  generalize s.copyFile source target = result at hcopy ⊢
  generalize t.copyFile source target = result' at hcopy ⊢
  cases hcopy with
  | error error => exact ⟨rfl, .refl h.agree⟩
  | ok hcopied =>
    simp only
    split_ifs
    · exact ⟨rfl, hcopied⟩
    · have hcarried := (h.next hcopied).carryNodeId hsource htarget
      have hdeleted := ((h.next hcopied).next hcarried).deleteFile hsource
      exact (hcopied.trans hcarried).attempt (hdeleted.attempt hcarried.agree)

theorem copyFiles {place : String → String} {carryIds : Bool} {paths : List String}
    (h : Twins d s t)
    (hpaths : ∀ p ∈ paths, Path.isBelow p d = true ∧ Path.isBelow (place p) d = true) :
    AlikeAttempts d s t (Store.copyFiles place carryIds paths s)
      (Store.copyFiles place carryIds paths t) := by
  induction paths generalizing s t with
  | nil => exact ⟨rfl, .refl h.agree⟩
  | cons p paths ih =>
    obtain ⟨hp, hplace⟩ := hpaths p List.mem_cons_self
    have hrest := fun q hq => hpaths q (List.mem_cons_of_mem p hq)
    have hcopy := h.copyFile hp hplace
    unfold Store.copyFiles
    generalize s.copyFile p (place p) = result at hcopy ⊢
    generalize t.copyFile p (place p) = result' at hcopy ⊢
    cases hcopy with
    | error error => exact ⟨rfl, .refl h.agree⟩
    | ok hcopied =>
      have hnext := h.next hcopied
      cases carryIds with
      | false => exact hcopied.attempt (ih hnext hrest)
      | true =>
        have hcarried := hnext.carryNodeId hp hplace
        exact (hcopied.trans hcarried).attempt (ih (hnext.next hcarried) hrest)

section

variable (h : Twins d s t) (hsource : Path.isBelow source d = true)
  (htarget : Path.isBelow target d = true)
include h hsource htarget

/-- What lies within the source goes to a place below `d`. -/
theorem isBelow_moved {p : String} (hp : Path.isWithin p source = true) :
    Path.isBelow (Path.moved source target p) d = true :=
  h.isBelow htarget (Path.isWithin_moved_of_ne_root (Path.ne_root_of_isBelow h.canonical hsource)
    (Path.ne_root_of_isBelow h.canonical htarget) hp)

theorem relocationError?_eq :
    s.relocationError? source target = t.relocationError? source target := by
  have hin := Path.isWithin_of_isBelow htarget
  unfold relocationError? isTaken
  rw [h.agree.isDirectory_eq (Path.isWithin_of_isBelow hsource), h.agree.isDirectory_eq hin,
    h.agree.isFile_eq hin, h.agree.isDirectory_eq (h.isWithin_parent htarget)]

theorem copySubtree (carryIds : Bool) :
    AlikeAttempts d s t (s.copySubtree source target carryIds)
      (t.copySubtree source target carryIds) := by
  have hdirs := Text.sort_eq_of_perm
    (@perm_directories d source s t h hsource (Path.isWithin · source) fun _ hp => hp)
  have hfiles := Text.sort_eq_of_perm (h.perm_filesBelow hsource)
  unfold Store.copySubtree
  simp only [hdirs, hfiles]
  have hadded : Parallel d s t
      (s.addDirectories ((t.subtreeDirectories source).map (Path.moved source target)))
      (t.addDirectories ((t.subtreeDirectories source).map (Path.moved source target))) := by
    refine .addDirectories h.agree fun e he => ?_
    obtain ⟨p, hp, rfl⟩ := List.mem_map.1 he
    exact h.isBelow_moved hsource htarget (mem_subtreeDirectories.1 hp).2
  refine hadded.attempt ((h.next hadded).copyFiles fun p hp => ?_)
  have hin := Path.isWithin_of_isBelow (mem_subtreeFiles.1 hp).2
  exact ⟨h.isBelow hsource hin, h.isBelow_moved hsource htarget hin⟩

theorem copyDirectory :
    AlikeAttempts d s t (s.copyDirectory source target) (t.copyDirectory source target) := by
  unfold Store.copyDirectory
  rw [h.relocationError?_eq hsource htarget]
  cases t.relocationError? source target with
  | some error => exact ⟨rfl, .refl h.agree⟩
  | none => exact h.copySubtree hsource htarget false

theorem moveDirectory :
    AlikeAttempts d s t (s.moveDirectory source target) (t.moveDirectory source target) := by
  unfold Store.moveDirectory
  rw [h.relocationError?_eq hsource htarget]
  cases t.relocationError? source target with
  | some error => exact ⟨rfl, .refl h.agree⟩
  | none =>
    obtain ⟨hend, hcopied⟩ := h.copySubtree hsource htarget true
    simp only
    generalize s.copySubtree source target true = copy at hend hcopied ⊢
    generalize t.copySubtree source target true = copy' at hend hcopied ⊢
    obtain ⟨copied, end?⟩ := copy
    obtain ⟨copied', end?'⟩ := copy'
    simp only at hend hcopied
    subst hend
    cases end? with
    | some error => exact ⟨rfl, hcopied⟩
    | none =>
      have hdeleted := (h.next hcopied).deleteDirectory hsource true
      simp only
      generalize copied.deleteDirectory source true = result at hdeleted ⊢
      generalize copied'.deleteDirectory source true = result' at hdeleted ⊢
      cases hdeleted with
      | error error => exact ⟨rfl, hcopied⟩
      | @ok removed removed' hremoved =>
        have hin {cwd : String} (hcwd : Path.isWithin cwd source = true) :
            Path.isWithin cwd d = true :=
          Path.isWithin_of_isBelow (h.isBelow hsource hcwd)
        simp only
        -- a working directory within the source is the same in both stores and goes along in both
        split_ifs with hcwd hcwd' hcwd'
        · have heq := hcopied.agree.cwd_eq (.inl (hin hcwd))
          rw [← heq]
          refine ⟨rfl, hcopied.trans (hremoved.withCwd (hin hcwd) (heq ▸ hin hcwd) ?_)⟩
          exact Path.isWithin_of_isBelow (h.isBelow_moved hsource htarget hcwd)
        · rw [hcopied.agree.cwd_eq (.inl (hin hcwd))] at hcwd
          exact absurd hcwd hcwd'
        · rw [← hcopied.agree.cwd_eq (.inr (hin hcwd'))] at hcwd'
          exact absurd hcwd' hcwd
        · exact ⟨rfl, hcopied.trans hremoved⟩

end

/-- **An operation is local:** on two stores that agree within `d`, an operation below `d` ends in
the same way and does the same below `d`, and nothing else. -/
theorem perform (h : Twins d s t) {operation : Operation} (hop : operation.WorksBelow d) :
    AlikeAttempts d s t (s.perform operation) (t.perform operation) := by
  cases operation with
  | changeDirectory path => exact hop.elim
  | clear => exact hop.elim
  | createDirectory path parents =>
    exact (h.createDirectory (hop path List.mem_cons_self) parents).attempt h.agree
  | writeFile path content append mimeType =>
    exact (h.writeFile (hop path List.mem_cons_self) content append mimeType).attempt h.agree
  | touch path => exact (h.touch (hop path List.mem_cons_self)).attempt h.agree
  | deleteFile path => exact (h.deleteFile (hop path List.mem_cons_self)).attempt h.agree
  | deleteDirectory path recursive =>
    exact (h.deleteDirectory (hop path List.mem_cons_self) recursive).attempt h.agree
  | copyFile source target =>
    have htarget := hop target (List.mem_cons_of_mem source List.mem_cons_self)
    exact (h.copyFile (hop source List.mem_cons_self) htarget).attempt h.agree
  | moveFile source target =>
    have htarget := hop target (List.mem_cons_of_mem source List.mem_cons_self)
    exact h.moveFile (hop source List.mem_cons_self) htarget
  | copyDirectory source target =>
    have htarget := hop target (List.mem_cons_of_mem source List.mem_cons_self)
    exact h.copyDirectory (hop source List.mem_cons_self) htarget
  | moveDirectory source target =>
    have htarget := hop target (List.mem_cons_of_mem source List.mem_cons_self)
    exact h.moveDirectory (hop source List.mem_cons_self) htarget

end Twins
end Store
end EditorShell

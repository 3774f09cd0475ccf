import EditorShell.Proofs.Path.Prefix
import EditorShell.Proofs.Store.Edit

/-!
# The same change in two stores

To say that an operation sees and changes nothing but what lies below a directory `d`, two stores
are compared that agree within `d` and on which the same is done. They go on to agree within `d`,
outside it each stays what it was, and both count alike. `Parallel` says this of two changes, and
`Alike` of what two operations answer. Each way to change a store is parallel, and so is what is
done one after the other.
-/

namespace EditorShell
namespace Store

variable {d path : String} {store done s t s' t' : Store}

/-! ## Agreement and change -/

/-- Operations can work below `d`: it is a directory, and so is everything above it. -/
structure Hosts (store : Store) (d : String) : Prop where
  mem : d ∈ store.directories
  ancestor_mem : ∀ a ∈ Path.ancestors d, a ∈ store.directories
  nodup : store.directories.Nodup

/-- The stores hold the same at and below `d`, and a working directory that one of them has there is
that of the other as well. -/
structure AgreeWithin (d : String) (s t : Store) : Prop where
  mem_iff : ∀ p, Path.isWithin p d = true → (p ∈ s.directories ↔ p ∈ t.directories)
  get?_eq : ∀ p, Path.isWithin p d = true → s.files.get? p = t.files.get? p
  cwd_eq : Path.isWithin s.cwd d = true ∨ Path.isWithin t.cwd d = true → s.cwd = t.cwd

/-- What has changed from `store` to `done` lies below `d`. A working directory within `d` stays
within it. -/
structure ChangedBelow (d : String) (store done : Store) : Prop where
  mem_iff : ∀ p, Path.isBelow p d = false → (p ∈ done.directories ↔ p ∈ store.directories)
  get?_eq : ∀ p, Path.isBelow p d = false → done.files.get? p = store.files.get? p
  cwd : done.cwd = store.cwd ∨
    Path.isWithin store.cwd d = true ∧ Path.isWithin done.cwd d = true
  nodup : store.directories.Nodup → done.directories.Nodup

namespace AgreeWithin

theorem isDirectory_eq (h : AgreeWithin d s t) (hpath : Path.isWithin path d = true) :
    s.isDirectory path = t.isDirectory path := by
  rw [Bool.eq_iff_iff, isDirectory_iff, isDirectory_iff]
  exact h.mem_iff path hpath

theorem mem_keys_iff (h : AgreeWithin d s t) (hpath : Path.isWithin path d = true) :
    path ∈ s.files.keys ↔ path ∈ t.files.keys := by
  rw [← Table.get?_isSome_iff, ← Table.get?_isSome_iff, h.get?_eq path hpath]

theorem isFile_eq (h : AgreeWithin d s t) (hpath : Path.isWithin path d = true) :
    s.isFile path = t.isFile path := by
  rw [Bool.eq_iff_iff, isFile_iff, isFile_iff]
  exact h.mem_keys_iff hpath

end AgreeWithin

namespace ChangedBelow

variable {middle : Store}

theorem refl (d : String) (store : Store) : ChangedBelow d store store :=
  ⟨fun _ _ => Iff.rfl, fun _ _ => rfl, .inl rfl, id⟩

theorem trans (h : ChangedBelow d store middle) (h' : ChangedBelow d middle done) :
    ChangedBelow d store done := by
  refine ⟨fun p hp => (h'.mem_iff p hp).trans (h.mem_iff p hp),
    fun p hp => (h'.get?_eq p hp).trans (h.get?_eq p hp), ?_, fun hn => h'.nodup (h.nodup hn)⟩
  rcases h.cwd with heq | ⟨hstart, hmiddle⟩
  · rw [← heq]
    exact h'.cwd
  · rcases h'.cwd with heq' | ⟨-, hdone⟩
    · exact .inr ⟨hstart, heq' ▸ hmiddle⟩
    · exact .inr ⟨hstart, hdone⟩

/-- A directory with nothing above it that lies below `d` hosts as before. -/
theorem hosts {e : String} (h : ChangedBelow d store done) (hhosts : store.Hosts e)
    (he : Path.isBelow e d = false)
    (hancestors : ∀ a ∈ Path.ancestors e, Path.isBelow a d = false) : done.Hosts e where
  mem := (h.mem_iff e he).2 hhosts.mem
  ancestor_mem a ha := (h.mem_iff a (hancestors a ha)).2 (hhosts.ancestor_mem a ha)
  nodup := h.nodup hhosts.nodup

end ChangedBelow

/-! ## Two changes -/

/-- The same has been done below `d` to `s` and `t`, and has led to `s'` and `t'`. -/
structure Parallel (d : String) (s t s' t' : Store) : Prop where
  left : ChangedBelow d s s'
  right : ChangedBelow d t t'
  agree : AgreeWithin d s' t'
  revision_eq : s'.revision + t.revision = t'.revision + s.revision

namespace Parallel

variable {s'' t'' : Store}

theorem refl (h : AgreeWithin d s t) : Parallel d s t s t :=
  ⟨.refl d s, .refl d t, h, Nat.add_comm ..⟩

theorem trans (h : Parallel d s t s' t') (h' : Parallel d s' t' s'' t'') :
    Parallel d s t s'' t'' := by
  refine ⟨h.left.trans h'.left, h.right.trans h'.right, h'.agree, ?_⟩
  have hfirst := h.revision_eq
  have hsecond := h'.revision_eq
  omega

/-- Files below `d` change, and the same counts for them. -/
theorem of_files (h : AgreeWithin d s t) (k : Nat)
    (hs : s'.directories = s.directories ∧ s'.cwd = s.cwd ∧ s'.revision = s.revision + k)
    (ht : t'.directories = t.directories ∧ t'.cwd = t.cwd ∧ t'.revision = t.revision + k)
    (hsfiles : ∀ p, Path.isBelow p d = false → s'.files.get? p = s.files.get? p)
    (htfiles : ∀ p, Path.isBelow p d = false → t'.files.get? p = t.files.get? p)
    (hfiles : ∀ p, Path.isBelow p d = true → s'.files.get? p = t'.files.get? p) :
    Parallel d s t s' t' := by
  obtain ⟨hsdirs, hscwd, hsrev⟩ := hs
  obtain ⟨htdirs, htcwd, htrev⟩ := ht
  refine ⟨⟨fun p _ => by rw [hsdirs], hsfiles, .inl hscwd, fun hn => hsdirs ▸ hn⟩,
    ⟨fun p _ => by rw [htdirs], htfiles, .inl htcwd, fun hn => htdirs ▸ hn⟩,
    ⟨fun p hp => ?_, fun p hp => ?_, fun hp => ?_⟩, ?_⟩
  · rw [hsdirs, htdirs]
    exact h.mem_iff p hp
  · cases hbelow : Path.isBelow p d with
    | true => exact hfiles p hbelow
    | false => rw [hsfiles p hbelow, htfiles p hbelow, h.get?_eq p hp]
  · rw [hscwd, htcwd] at hp ⊢
    exact h.cwd_eq hp
  · omega

theorem addDirectory (h : AgreeWithin d s t) (hpath : Path.isBelow path d = true) :
    Parallel d s t (s.addDirectory path) (t.addDirectory path) := by
  have hleft (store : Store) : ChangedBelow d store (store.addDirectory path) := by
    refine ⟨fun p hp => ?_, fun _ _ => rfl, .inl rfl, fun hn => hn.insert⟩
    rw [mem_directories_addDirectory]
    simp [Path.ne_of_isBelow hp hpath]
  refine ⟨hleft s, hleft t, ⟨fun p hp => ?_, h.get?_eq, h.cwd_eq⟩, ?_⟩
  · rw [mem_directories_addDirectory, mem_directories_addDirectory, h.mem_iff p hp]
  · simp only [Store.addDirectory]
    omega

theorem addDirectories {paths : List String} (h : AgreeWithin d s t)
    (hpaths : ∀ path ∈ paths, Path.isBelow path d = true) :
    Parallel d s t (s.addDirectories paths) (t.addDirectories paths) := by
  induction paths generalizing s t with
  | nil => exact .refl h
  | cons path paths ih =>
    have hfirst := addDirectory h (hpaths path List.mem_cons_self)
    have hrest := ih hfirst.agree fun p hp => hpaths p (List.mem_cons_of_mem path hp)
    exact hfirst.trans hrest

/-- A working directory within `d` goes to the same place in both stores. -/
theorem withCwd (h : Parallel d s t s' t') {cwd : String} (hs : Path.isWithin s.cwd d = true)
    (ht : Path.isWithin t.cwd d = true) (hcwd : Path.isWithin cwd d = true) :
    Parallel d s t { s' with cwd := cwd } { t' with cwd := cwd } where
  left := ⟨h.left.mem_iff, h.left.get?_eq, .inr ⟨hs, hcwd⟩, h.left.nodup⟩
  right := ⟨h.right.mem_iff, h.right.get?_eq, .inr ⟨ht, hcwd⟩, h.right.nodup⟩
  agree := ⟨h.agree.mem_iff, h.agree.get?_eq, fun _ => rfl⟩
  revision_eq := h.revision_eq

end Parallel

/-! ## Two answers -/

/-- Both answers are the same refusal, or both are stores to which the same has been done. -/
inductive Alike (d : String) (s t : Store) :
    Except StoreError Store → Except StoreError Store → Prop where
  | error (error : StoreError) : Alike d s t (.error error) (.error error)
  | ok {s' t' : Store} : Parallel d s t s' t' → Alike d s t (.ok s') (.ok t')

/-- Both attempts end in the same way, and the same has been done in both. -/
structure AlikeAttempts (d : String) (s t : Store) (first second : Attempt) : Prop where
  error_eq : first.2 = second.2
  parallel : Parallel d s t first.1 second.1

/-- A check that both stores pass, or neither. -/
theorem Alike.guard {c : Prop} [Decidable c] {error : StoreError}
    {rest rest' : Except StoreError Store} (h : Alike d s t rest rest') :
    Alike d s t (if c then .error error else rest) (if c then .error error else rest') := by
  split_ifs
  · exact .error error
  · exact h

theorem Alike.attempt {result result' : Except StoreError Store} (hagree : AgreeWithin d s t)
    (h : Alike d s t result result') :
    AlikeAttempts d s t (s.attempt result) (t.attempt result') := by
  cases h with
  | error error => exact ⟨rfl, .refl hagree⟩
  | ok h => exact ⟨rfl, h⟩

/-- What is done first, and an attempt that goes on from there. -/
theorem Parallel.attempt {first second : Attempt} (h : Parallel d s t s' t')
    (hrest : AlikeAttempts d s' t' first second) : AlikeAttempts d s t first second :=
  ⟨hrest.error_eq, h.trans hrest.parallel⟩

end Store
end EditorShell

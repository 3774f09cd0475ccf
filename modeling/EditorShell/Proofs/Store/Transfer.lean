import EditorShell.Proofs.Store.Atomic

/-!
# What is written to a file, and what is copied and moved with it

Text that is written to a file leaves its type and its identity alone, and everything else in the
store (`Wrote`). A file that is copied or moved takes its text along, and a moved one its identity
too; where a file was before, the copy keeps the identity of that file. With the type it is
different: a file without a type is written as one of which no type is given, and so a file that it
is written over keeps the type that it had (`transfer_file`). Everything else stays (`Transferred`).
-/

namespace EditorShell

/-- Copying a file, or moving it. -/
def Operation.transfer (move : Bool) (source target : String) : Operation :=
  if move then .moveFile source target else .copyFile source target

namespace Store

variable {store copied done : Store} {path text source target : String} {append move : Bool}
  {file arrived : File}

/-! ## Writing a text -/

/-- A file can be written at the path: its parent is a directory, and it is none itself. -/
def Accepts (store : Store) (path : String) : Prop :=
  path ≠ Path.root ∧ path ∉ store.directories ∧ Path.parent path ∈ store.directories

instance : DecidablePred (Accepts store) := fun _ => inferInstanceAs (Decidable (_ ∧ _ ∧ _))

/-- The text is the text of the file at the path, or with `append` the end of it. If there was a
file, it has kept its type and its identity. No other file and no directory is touched, and neither
is the working directory. -/
structure Wrote (store : Store) (path text : String) (append : Bool) (done : Store) : Prop where
  file_eq : done.files.get? path = some {
    content := if append then ((store.files.get? path).map (·.content)).getD "" ++ text else text
    mimeType := (store.files.get? path).bind (·.mimeType)
    nodeId := (store.files.get? path).bind (·.nodeId) }
  get?_eq : ∀ p, p ≠ path → done.files.get? p = store.files.get? p
  directories_eq : done.directories = store.directories
  cwd_eq : done.cwd = store.cwd
  revision_eq : done.revision = store.revision + 1

theorem writeFile_wrote (h : store.writeFile path text append none = .ok done) :
    store.Wrote path text append done := by
  obtain ⟨-, rfl⟩ := writeFile_eq_ok_iff.1 h
  refine ⟨?_, fun p hp => ?_, rfl, rfl, rfl⟩
  · rw [get?_writeIn, if_pos rfl]
    cases store.files.get? path <;> cases append <;> simp [updated]
  · rw [get?_writeIn, if_neg hp]

theorem exists_writeFile_eq_ok_iff {mimeType : Option String} :
    (∃ done, store.writeFile path text append mimeType = .ok done) ↔ store.Accepts path := by
  simp only [writeFile_eq_ok_iff, exists_and_left, exists_eq', and_true]
  rfl

/-! ## Copying and moving a file -/

/-- All of a file, as it should arrive where `old` was: its text and its type, and its identity if
it is moved. -/
def whole (move : Bool) (file : File) (old : Option File) : File where
  content := file.content
  mimeType := file.mimeType
  nodeId := if move then file.nodeId else old.bind (·.nodeId)

/-- `arrived` stands at the target and the source is there as it was, or is gone if it was moved.
No other file and no directory is touched, and neither is the working directory. -/
structure Transferred (store : Store) (source target : String) (move : Bool) (arrived : File)
    (done : Store) : Prop where
  target_eq : done.files.get? target = some arrived
  source_eq : done.files.get? source = if move then none else store.files.get? source
  get?_eq : ∀ p, p ≠ source → p ≠ target → done.files.get? p = store.files.get? p
  directories_eq : done.directories = store.directories
  cwd_eq : done.cwd = store.cwd
  revision_eq : done.revision = store.revision + if move then 2 else 1

/-- A file is copied if there is one and a file can be written at the target. -/
theorem exists_copyFile_eq_ok_iff (hne : target ≠ source) :
    (∃ copied, store.copyFile source target = .ok copied) ↔
      source ∈ store.files.keys ∧ store.Accepts target := by
  simp only [copyFile_eq_ok_iff, if_neg hne]
  rw [exists_comm, ← Table.get?_isSome_iff, Option.isSome_iff_exists]
  simp only [exists_and_left, exists_writeFile_eq_ok_iff, exists_and_right]

/-- A transfer does what copying the file does, or it does nothing. -/
theorem perform_transfer_of_error {error : StoreError} (move : Bool)
    (h : store.copyFile source target = .error error) :
    store.perform (.transfer move source target) = (store, some error) := by
  cases move with
  | false => simp [Operation.transfer, perform, attempt, h]
  | true => simp [Operation.transfer, perform, moveFile, h]

/-- **What a file that can be copied leaves,** whether it is copied or moved: the type that arrives
is its own if it has one, and else that of the file that was there. -/
theorem transferred_perform (h : WellFormed store) (hne : target ≠ source)
    (hfile : store.files.get? source = some file)
    (hcopy : store.copyFile source target = .ok copied) (move : Bool) :
    ∃ done, store.perform (.transfer move source target) = (done, none) ∧
      store.Transferred source target move
        { whole move file (store.files.get? target) with
          mimeType := file.mimeType.or ((store.files.get? target).bind (·.mimeType)) } done := by
  cases move with
  | false =>
    obtain ⟨read, files, hread, rfl, hget⟩ := copyFile_eq hcopy hne
    obtain rfl : file = read := Option.some.inj (hfile.symm.trans hread)
    refine ⟨{ store with files := files, revision := store.revision + 1 },
      by simp [Operation.transfer, perform, attempt, hcopy], ?_, ?_, ?_, rfl, rfl, rfl⟩
    · simp [hget, overwritten, whole]
    · simp [hget, hne.symm]
    · intro p hsource htarget
      simp [hget, htarget]
  | true =>
    obtain ⟨read, files, hread, hmove, hget⟩ := moveFile_eq h hcopy hne
    obtain rfl : file = read := Option.some.inj (hfile.symm.trans hread)
    refine ⟨{ store with files := files, revision := store.revision + 2 },
      by simpa [Operation.transfer, perform] using hmove, ?_, ?_, ?_, rfl, rfl, rfl⟩
    · simp [hget, hne, overwritten, whole]
    · simp [hget]
    · intro p hsource htarget
      simp [hget, hsource, htarget]

/-- **A file that is copied or moved arrives with its text, and with its identity if it is moved.**
It is copied or moved exactly if it is there and a file can be written at the target. The source is
then as it was, or gone if it was moved, and no other file, no directory and not the working
directory is touched. The type arrives too, unless the file has none and replaces one that has one:
exactly then the old type stays. -/
theorem transfer_file (h : WellFormed store) (hne : target ≠ source) (move : Bool) :
    ((store.perform (.transfer move source target)).2 = none ↔
      source ∈ store.files.keys ∧ store.Accepts target) ∧
    ∀ file done, store.files.get? source = some file →
      store.perform (.transfer move source target) = (done, none) →
        store.Transferred source target move
          { whole move file (store.files.get? target) with
            mimeType := file.mimeType.or ((store.files.get? target).bind (·.mimeType)) } done ∧
        (store.Transferred source target move (whole move file (store.files.get? target)) done ↔
          (file.mimeType = none → (store.files.get? target).bind (·.mimeType) = none)) := by
  rw [← exists_copyFile_eq_ok_iff hne]
  cases hcopy : store.copyFile source target with
  | error error =>
    rw [perform_transfer_of_error move hcopy]
    exact ⟨by simp, fun file done _ hdone => by cases hdone⟩
  | ok copied =>
    obtain ⟨file, -, hfile, -⟩ := copyFile_eq hcopy hne
    obtain ⟨done, hdone, htransferred⟩ := transferred_perform h hne hfile hcopy move
    refine ⟨by simp [hdone], fun read after hread hafter => ?_⟩
    obtain rfl : file = read := Option.some.inj (hfile.symm.trans hread)
    obtain rfl : done = after := congrArg Prod.fst (hdone.symm.trans hafter)
    refine ⟨htransferred, fun hwhole => ?_, fun htype => ?_⟩
    · -- both say which file stands at the target
      have hsame := Option.some.inj (htransferred.target_eq.symm.trans hwhole.target_eq)
      intro hnone
      simpa [whole, hnone] using congrArg File.mimeType hsame
    · cases hmime : file.mimeType with
      | none => simpa [whole, hmime, htype hmime] using htransferred
      | some mimeType => simpa [whole, hmime] using htransferred

/-- Two files, of which only the second has a type, and both have an identity. -/
def typed : Store where
  directories := ["/"]
  files := Table.ofList [("/a", ⟨"x", none, some "1"⟩), ("/b", ⟨"y", some "text/css", some "2"⟩)]
  cwd := "/"
  revision := 2

theorem wellFormed_typed : typed.WellFormed := by decide

/-- The second file brings its type to a new place, and over the first one its identity too. -/
theorem transfer_file_typed :
    typed.Transferred "/b" "/c" false ⟨"y", some "text/css", none⟩
        (typed.perform (.transfer false "/b" "/c")).1 ∧
      typed.Transferred "/b" "/a" true ⟨"y", some "text/css", some "2"⟩
        (typed.perform (.transfer true "/b" "/a")).1 := by
  have hb : typed.files.get? "/b" = some ⟨"y", some "text/css", some "2"⟩ := by decide +kernel
  have hc : typed.files.get? "/c" = none := by decide +kernel
  have hcopied : typed.perform (.transfer false "/b" "/c") =
      ((typed.perform (.transfer false "/b" "/c")).1, none) := by decide +kernel
  have hmoved : typed.perform (.transfer true "/b" "/a") =
      ((typed.perform (.transfer true "/b" "/a")).1, none) := by decide +kernel
  have hcopy := (transfer_file wellFormed_typed (by decide : "/c" ≠ "/b") false).2 _ _ hb hcopied
  have hmove := (transfer_file wellFormed_typed (by decide : "/a" ≠ "/b") true).2 _ _ hb hmoved
  rw [hc] at hcopy
  exact ⟨hcopy.1, hmove.1⟩

/-- The second file keeps its type when the first one is copied over it. -/
theorem not_whole_of_type_kept :
    ¬∀ (store : Store) (source target : String) (move : Bool) (file : File) (done : Store),
      WellFormed store → Path.IsCanonical target → target ≠ source →
        store.files.get? source = some file →
          store.perform (.transfer move source target) = (done, none) →
            store.Transferred source target move (whole move file (store.files.get? target))
              done := by
  intro hall
  have hcanonical : Path.IsCanonical "/b" := ⟨["b"], by decide, by decide⟩
  have hdone : typed.perform (.transfer false "/a" "/b") =
      ((typed.perform (.transfer false "/a" "/b")).1, none) := by decide +kernel
  have hwhole := hall typed "/a" "/b" false ⟨"x", none, some "1"⟩ _ wellFormed_typed hcanonical
    (by decide) (by decide +kernel) hdone
  exact absurd hwhole.target_eq (by decide +kernel)

end Store
end EditorShell

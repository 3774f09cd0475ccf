import EditorShell.Proofs.Path.Composition
import EditorShell.Proofs.Shell.Terminal
import EditorShell.Proofs.Store.Contents
import EditorShell.Proofs.Text.Cut
import EditorShell.Shell.Completion

/-!
# What a word is completed to

The paths that complete a word are the children of one directory whose names begin with what stands
after the last slash of the word, in order (`IsListing`). The directory is the one that the text
before that slash denotes in the working directory. It is the one that commands go to as well,
unless the text begins at the home directory: completion takes `~` for a name like any other
(`complete_lists`).
-/

namespace EditorShell

/-! ## Listings -/

namespace Store

variable {store : Store}

/-- What lies directly in `directory` under a name that begins with `start`, each thing once and in
the order of the names. -/
structure IsListing (store : Store) (directory start : String) (found : List Found) : Prop where
  mem_iff : ∀ f, f ∈ found ↔ store.Has f ∧ f.1 ≠ Path.root ∧ Path.parent f.1 = directory ∧
    Text.startsWith (Path.name f.1) start = true
  ascending : found.Pairwise fun a b => Path.name a.1 < Path.name b.1

/-- **The children whose names begin with `start` are a listing,** also if there is no such
directory. -/
theorem WellFormed.isListing (h : WellFormed store) (d start : String) :
    store.IsListing d start
      (((store.children d).filter fun c => Text.startsWith c.name start).map Child.found) := by
  refine ⟨fun f => ⟨fun hf => ?_, ?_⟩, ?_⟩
  · obtain ⟨c, hc, rfl⟩ := List.mem_map.1 hf
    obtain ⟨hchild, hstart⟩ := List.mem_filter.1 hc
    obtain ⟨hne, hparent, hhas⟩ :=
      (h.mem_children_iff (mem_directories_of_mem_children hchild)).1 ⟨c, hchild, rfl⟩
    rw [name_of_mem_children hchild] at hstart
    exact ⟨hhas, hne, hparent, hstart⟩
  · rintro ⟨hhas, hne, hparent, hstart⟩
    have hd : d ∈ store.directories := hparent ▸ h.parent_mem hhas.mem hne
    obtain ⟨c, hchild, rfl⟩ := (h.mem_children_iff hd).2 ⟨hne, hparent, hhas⟩
    refine List.mem_map.2 ⟨c, List.mem_filter.2 ⟨hchild, ?_⟩, rfl⟩
    rwa [name_of_mem_children hchild]
  · rw [List.pairwise_map]
    refine ((h.pairwise_children d).filter _).imp_of_mem fun {a b} ha hb hlt => ?_
    rwa [name_of_mem_children (List.mem_of_mem_filter ha),
      name_of_mem_children (List.mem_of_mem_filter hb)] at hlt

end Store

namespace Shell

variable {terminal : Terminal} {session : Session} {settings : Settings}

/-! ## Suggestions -/

/-- A thing as it is suggested: after what is typed for its directory, its name, and a slash if it
is a directory itself. -/
def suggested (shown : String) (found : Store.Found) : String :=
  shown ++ Path.name found.1 ++ if found.2 then "/" else ""

theorem childSuggestions_eq (store : Store) (directory shown start : String) :
    childSuggestions store directory shown start =
      (((store.children directory).filter fun c => Text.startsWith c.name start).map
        Child.found).map (suggested shown) := by
  rw [childSuggestions, List.map_map]
  refine List.map_congr_left fun c hc => ?_
  rw [Function.comp_apply, suggested, Store.name_of_mem_children (List.mem_of_mem_filter hc)]
  rfl

/-- The paths that complete a word: what lies in one directory under a name that begins with the
part of the word after its last slash, each after the part that was typed for the directory. Without
a slash the directory is the working directory. Else it is the one that commands go to, the root if
nothing stands before the slash, unless the typed part begins at the home directory: then it is the
one of that very name below the working directory. -/
def Completes (session : Session) (settings : Settings) (word : String)
    (paths : List String) : Prop :=
  ∃ shown start directory found, word = shown ++ start ∧ '/' ∉ start.toList ∧
    session.store.IsListing directory start found ∧ paths = found.map (suggested shown) ∧
    (shown = "" ∧ directory = session.store.cwd ∨
      ∃ typed, shown = typed ++ "/" ∧
        directory =
          if StartsAtHome typed then Path.normalize (session.store.cwd ++ "/" ++ typed)
          else session.resolve settings (if typed = "" then Path.root else typed))

/-- What is typed for a directory is looked up as a path of the working directory. -/
theorem completes_pathSuggestions (h : session.store.WellFormed) (settings : Settings)
    (word : String) : Completes session settings word (pathSuggestions session word) := by
  unfold pathSuggestions
  split
  next hcut =>
    have hslash : '/' ∉ word.toList := Text.partitionLast?_eq_none_iff.1 hcut
    exact ⟨"", word, session.store.cwd, _, (String.empty_append).symm, hslash, h.isListing _ _,
      childSuggestions_eq _ _ _ _, .inl ⟨rfl, rfl⟩⟩
  next typed start hcut =>
    obtain ⟨htext, hslash⟩ := Text.partitionLast?_eq_some_iff.1 hcut
    have hword : word = typed ++ "/" ++ start := String.toList_injective (by simpa using htext)
    refine ⟨typed ++ "/", start, _, _, hword, hslash, h.isListing _ _,
      childSuggestions_eq _ _ _ _, .inr ⟨typed, rfl, ?_⟩⟩
    have hcwd := h.isCanonical_cwd
    by_cases hhome : StartsAtHome typed
    · have hne : typed ≠ "" := by
        rintro rfl
        exact absurd hhome (by decide)
      rw [if_pos hhome, if_neg hne, Path.resolve_of_relative hcwd hhome.relative]
    · have hlooked : ¬StartsAtHome (if typed = "" then Path.root else typed) := by
        split_ifs
        · decide
        · exact hhome
      rw [if_neg hhome, Session.resolve, Session.expandHome_eq_self hlooked]

/-- The suggestions for a text are those for its last word, and names only if that is the only
word. -/
theorem suggestions_eq (shell : Shell) (session : Session) (text : String) :
    ∃ lead word names, text = lead ++ word ∧ ' ' ∉ word.toList ∧
      (lead = "" ∧ names = shell.nameSuggestions session word ∨
        (∃ before, lead = before ++ " ") ∧ names = []) ∧
      shell.suggestions session text = names ++ pathSuggestions session word := by
  unfold suggestions
  split
  next hcut =>
    exact ⟨"", text, _, String.empty_append.symm, Text.partitionLast?_eq_none_iff.1 hcut,
      .inl ⟨rfl, rfl⟩, rfl⟩
  next before word hcut =>
    obtain ⟨htext, hspace⟩ := Text.partitionLast?_eq_some_iff.1 hcut
    have heq : text = before ++ " " ++ word := String.toList_injective (by simpa using htext)
    exact ⟨before ++ " ", word, [], heq, hspace, .inr ⟨⟨before, rfl⟩, rfl⟩, rfl⟩

/-- A session in a directory with two directories in it, while a line waits. -/
def browsing : List Event :=
  [.request (.start []), .submit "mkdir src lib lib/sub", .submit "cd lib", .submit "wget x > s"]

/-- A shell whose home directory holds a directory. -/
def furnished : Shell :=
  (create .default [] ⟨2024, 1, 2⟩).handleAll [.start [.leaf ⟨"1", "a", .folder, none, none⟩]]

end Shell
end EditorShell

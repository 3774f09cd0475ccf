import EditorShell.Proofs.Path.Composition
import EditorShell.Proofs.Path.Prefix
import EditorShell.Proofs.Shell.Terminal

/-!
# What the prompt shows

A path is shown as it is, or as `~` and what leads to it from the home directory; put after the home
directory again, that spells the path (`abbreviate_cases`). So a path that is shown denotes itself
when it is typed in the same session (`resolve_abbreviate`), whatever text the home directory is,
and the prompt tells the working directory (`prompt_denotes_cwd`).
-/

namespace EditorShell

open EditorShell.Path (IsCanonical abbreviate)

/-! ## Shown paths -/

/-- **How a path is shown:** as it is, or as `~` with a rest that spells the path when it stands
after the home directory. -/
theorem Path.abbreviate_cases {p : String} (hp : IsCanonical p) (home : String) :
    abbreviate home p = p ∨
      ∃ rest, (abbreviate home p = "~/" ++ rest ∨ abbreviate home p = "~" ∧ rest = "") ∧
        Text.startsWith (home ++ "/" ++ rest) root = true ∧
        normalize (home ++ "/" ++ rest) = p := by
  have habsolute : Text.startsWith p root = true := isWithin_root_iff.1 (isWithin_root hp)
  unfold abbreviate
  split_ifs with hself hroot hbelow
  · subst hself
    refine .inr ⟨"", .inr ⟨rfl, rfl⟩, ?_, ?_⟩
    · rwa [String.append_assoc, startsWith_root_append (ne_empty hp)]
    · rw [normalize_append hp]
      exact (isCanonical_iff.1 hp).2.symm
  · subst hroot
    obtain ⟨rest, hrest⟩ := exists_toList_eq_cons hp
    obtain rfl : p = "/" ++ String.ofList rest := String.toList_injective (by simpa using hrest)
    refine .inr ⟨String.ofList rest, .inl (String.append_assoc ..).symm, ?_, ?_⟩
    · rw [String.append_assoc, startsWith_root_append (by decide)]
      rfl
    · rw [String.append_assoc, normalize_root_append, normalize_eq_self hp]
  · obtain ⟨rest, hrest⟩ := (isBelow_iff_isPrefix hroot).1 hbelow
    obtain rfl : p = home ++ "/" ++ String.ofList rest :=
      String.toList_injective (by simpa using hrest.symm)
    have hdrop : Text.drop home.length (home ++ "/" ++ String.ofList rest) =
        "/" ++ String.ofList rest := by
      rw [← String.toList_inj, Text.toList_drop, ← String.length_toList]
      simp
    refine .inr ⟨String.ofList rest, .inl ?_, habsolute, normalize_eq_self hp⟩
    rw [hdrop, ← String.append_assoc]
    rfl
  · exact .inl rfl

namespace Session

variable {settings : Settings} {session : Session} {p q : String}

theorem expandHome_tilde (session : Session) (settings : Settings) :
    session.expandHome settings "~" = session.home settings ++ "/" := by
  have hnothing : Text.drop 2 "~" = "" := by decide
  rw [expandHome, if_pos (by simp), hnothing, String.append_empty]

theorem expandHome_below (session : Session) (settings : Settings) (rest : String) :
    session.expandHome settings ("~/" ++ rest) = session.home settings ++ "/" ++ rest := by
  have hbelow : Text.startsWith ("~/" ++ rest) "~/" = true := by simp [Text.startsWith_iff]
  have hrest : Text.drop 2 ("~/" ++ rest) = rest := by simp [Text.drop]
  rw [expandHome, if_pos (by simp [hbelow]), hrest]

/-- **A path that is shown denotes itself when it is typed.** -/
theorem resolve_abbreviate (session : Session) (settings : Settings) (hp : IsCanonical p) :
    session.resolve settings (abbreviate (session.home settings) p) = p := by
  obtain hshown | ⟨rest, hshown, habsolute, hspelled⟩ :=
    Path.abbreviate_cases hp (session.home settings)
  · rw [hshown, resolve_eq_self hp]
  · have hexpanded : session.expandHome settings (abbreviate (session.home settings) p) =
        session.home settings ++ "/" ++ rest := by
      obtain hshown | ⟨hshown, rfl⟩ := hshown
      · rw [hshown, expandHome_below]
      · rw [hshown, expandHome_tilde, String.append_empty]
    rw [resolve, hexpanded, Path.resolve_of_absolute habsolute, hspelled]

/-- Different paths are shown differently. -/
theorem abbreviate_inj (session : Session) (settings : Settings) (hp : IsCanonical p)
    (hq : IsCanonical q) :
    abbreviate (session.home settings) p = abbreviate (session.home settings) q ↔ p = q := by
  constructor
  · intro h
    rw [← resolve_abbreviate session settings hp, h, resolve_abbreviate session settings hq]
  · rintro rfl
    rfl

/-- **The prompt tells the working directory.** Whatever text the home directory is, every canonical
path is shown as a text that denotes it in the session, so no two are shown alike; and what the
prompt of a running session shows denotes its working directory. -/
theorem prompt_denotes_cwd (settings : Settings) (session : Session) :
    (∀ p, IsCanonical p →
        session.resolve settings (abbreviate (session.home settings) p) = p) ∧
      (∀ p q, IsCanonical p → IsCanonical q →
        abbreviate (session.home settings) p = abbreviate (session.home settings) q → p = q) ∧
      ∀ (allowed : List String) (today : Date) (events : List Event),
        (∀ event ∈ events, event.IsSafe) →
        ((Terminal.mk (.create settings allowed today) none).handleAll events).shell.session =
          some session →
        ∃ shown, session.prompt settings = session.user settings ++ ":" ++ shown ++ " $ " ∧
          session.resolve settings shown = session.store.cwd := by
  refine ⟨fun p => resolve_abbreviate session settings,
    fun p q hp hq => (abbreviate_inj session settings hp hq).1, ?_⟩
  intro allowed today events hsafe hrunning
  have hcwd := (Terminal.wellFormed_handleAll hsafe hrunning).isCanonical_cwd
  exact ⟨_, rfl, resolve_abbreviate session settings hcwd⟩

/-- A session whose home directory is the empty text. -/
def homeless : List Event :=
  [.request (.start []), .submit "mkdir -p a/b", .submit "export HOME=", .submit "cd a/b"]

/-- With an empty home directory every path is shown below `~`. -/
theorem prompt_denotes_cwd_homeless :
    ∃ session shown,
      ((Terminal.mk (.create .default [] ⟨2024, 1, 2⟩) none).handleAll homeless).shell.session =
        some session ∧
      session.prompt .default = "developer:~/a/b $ " ∧
      session.prompt .default = session.user .default ++ ":" ++ shown ++ " $ " ∧
      session.resolve .default shown = session.store.cwd ∧
      session.resolve .default (abbreviate (session.home .default) "/") = "/" ∧
      (abbreviate (session.home .default) "/a" = abbreviate (session.home .default) "/b" →
        "/a" = "/b") := by
  obtain ⟨session, hrunning, hprompt⟩ := Option.map_eq_some_iff.1
    (by decide +kernel :
      ((Terminal.mk (.create .default [] ⟨2024, 1, 2⟩) none).handleAll homeless).shell.session.map
        (·.prompt .default) = some "developer:~/a/b $ ")
  have hsafe : ∀ event ∈ homeless, event.IsSafe := by
    simp [homeless, Event.IsSafe, Request.IsSafe]
  obtain ⟨hdenotes, hdistinct, hprompts⟩ := prompt_denotes_cwd .default session
  obtain ⟨shown, hshown, hcwd⟩ := hprompts [] ⟨2024, 1, 2⟩ homeless hsafe hrunning
  exact ⟨session, shown, hrunning, hprompt, hshown, hcwd, hdenotes "/" (by decide),
    hdistinct "/a" "/b" (by decide) (by decide)⟩

end Session
end EditorShell

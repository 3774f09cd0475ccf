/-!
# Text as a sequence of characters

Every length, cut and position in this library counts Unicode scalar values, so a text is worked on
as the list of its characters and turned back into a `String` at the end. Splitting and joining at
a character are `List.splitOn` and `List.intercalate`; this module adds what they leave out: cutting
at the first or the last occurrence of a character, affixes, padding and replacement.
-/

namespace EditorShell
namespace Text

universe u

/-! ## Cutting at one character -/

/-- Cuts at the first `sep`: what stands before it, and what stands after it if there is one. -/
def cutFirst (sep : Char) : List Char → List Char × Option (List Char)
  | [] => ([], none)
  | c :: cs =>
    if c = sep then ([], some cs)
    else (c :: (cutFirst sep cs).1, (cutFirst sep cs).2)

/-- Cuts at the last `sep`: what stands before and after it, or nothing if there is none. -/
def cutLast? (sep : Char) : List Char → Option (List Char × List Char)
  | [] => none
  | c :: cs =>
    match cutLast? sep cs with
    | some (before, after) => some (c :: before, after)
    | none => if c = sep then some ([], cs) else none

theorem append_of_cutFirst {sep : Char} {cs before after : List Char}
    (h : cutFirst sep cs = (before, some after)) : before ++ sep :: after = cs := by
  induction cs generalizing before with
  | nil => simp [cutFirst] at h
  | cons c cs ih =>
    unfold cutFirst at h
    split at h
    · simp_all
    · obtain ⟨rfl, hafter⟩ := Prod.mk.inj h
      simpa using ih (Prod.ext rfl hafter)

theorem append_of_cutLast? {sep : Char} {cs before after : List Char}
    (h : cutLast? sep cs = some (before, after)) : before ++ sep :: after = cs ∧ sep ∉ after := by
  induction cs generalizing before after with
  | nil => simp [cutLast?] at h
  | cons c cs ih =>
    unfold cutLast? at h
    split at h
    next b a hba =>
      simp only [Option.some.injEq, Prod.mk.injEq] at h
      obtain ⟨rfl, rfl⟩ := h
      obtain ⟨h, hs⟩ := ih hba
      exact ⟨by simp [h], hs⟩
    next hnone =>
      split at h
      next hc =>
        simp only [Option.some.injEq, Prod.mk.injEq] at h
        obtain ⟨rfl, rfl⟩ := h
        refine ⟨by simp [hc], ?_⟩
        clear ih hc
        induction cs with
        | nil => simp
        | cons d ds ih =>
          unfold cutLast? at hnone
          split at hnone
          · simp at hnone
          · split at hnone
            · simp at hnone
            · simp only [List.mem_cons, not_or]
              exact ⟨fun h => by simp_all, ih (by assumption)⟩
      · simp at h

/-- Cuts a text at the first `sep`. -/
def partition (sep : Char) (s : String) : String × Option String :=
  let (before, after) := cutFirst sep s.toList
  (String.ofList before, after.map String.ofList)

/-- Cuts a text at the last `sep`, if it holds one. -/
def partitionLast? (sep : Char) (s : String) : Option (String × String) :=
  (cutLast? sep s.toList).map fun (before, after) => (String.ofList before, String.ofList after)

/-- The pieces of a text between the occurrences of `sep`. -/
def split (sep : Char) (s : String) : List String :=
  (s.toList.splitOn sep).map String.ofList

/-! ## Affixes and parts -/

/-- The text begins with `start`. -/
def startsWith (s start : String) : Bool := start.toList.isPrefixOf s.toList

/-- The text ends with `tail`. -/
def endsWith (s tail : String) : Bool := tail.toList.isSuffixOf s.toList

theorem startsWith_iff {s start : String} :
    startsWith s start = true ↔ start.toList <+: s.toList := by simp [startsWith]

/-- `needle` stands somewhere in `cs`. -/
def occursIn (needle : List Char) : List Char → Bool
  | [] => needle.isEmpty
  | c :: cs => needle.isPrefixOf (c :: cs) || occursIn needle cs

/-- The text holds `needle` as a contiguous part. -/
def contains (s needle : String) : Bool := occursIn needle.toList s.toList

/-- The first `n` characters. -/
def take (n : Nat) (s : String) : String := String.ofList (s.toList.take n)

/-- All but the first `n` characters. -/
def drop (n : Nat) (s : String) : String := String.ofList (s.toList.drop n)

@[simp] theorem toList_take (n : Nat) (s : String) : (take n s).toList = s.toList.take n := by
  simp [take]

theorem length_take_le (n : Nat) (s : String) : (take n s).length ≤ n := by
  rw [← String.length_toList, toList_take, List.length_take]
  exact Nat.min_le_left ..

@[simp] theorem toList_drop (n : Nat) (s : String) : (drop n s).toList = s.toList.drop n := by
  simp [drop]

/-- Drops the characters of `class` from the front. -/
def trimStart (inClass : Char → Bool) (s : String) : String :=
  String.ofList (s.toList.dropWhile inClass)

/-- Drops the characters of `class` from the end. -/
def trimEnd (inClass : Char → Bool) (s : String) : String :=
  String.ofList (s.toList.reverse.dropWhile inClass).reverse

/-- Drops the characters of `class` from both ends. -/
def trimBoth (inClass : Char → Bool) (s : String) : String :=
  trimEnd inClass (trimStart inClass s)

/-- The text without `tail` at its end, if it stands there. -/
def withoutEnding (tail : String) (s : String) : String :=
  if endsWith s tail then take (s.length - tail.length) s else s

/-- The first occurrence of `old` in `cs` becomes `new`. An empty `old` occurs at the front. -/
def replaceFirstIn (old new : List Char) : List Char → List Char
  | [] => if old.isEmpty then new else []
  | c :: cs =>
    if old.isPrefixOf (c :: cs) then new ++ (c :: cs).drop old.length
    else c :: replaceFirstIn old new cs

/-- The first occurrence of `old` becomes `new`. -/
def replaceFirst (old new : String) (s : String) : String :=
  String.ofList (replaceFirstIn old.toList new.toList s.toList)

/-! ## Joining and padding -/

/-- The texts one under the other. -/
def joinLines (lines : List String) : String := "\n".intercalate lines

/-- The text with spaces after it up to `width` characters. -/
def padRight (width : Nat) (s : String) : String :=
  s ++ String.ofList (List.replicate (width - s.length) ' ')

/-- The text with spaces before it up to `width` characters. -/
def padLeft (width : Nat) (s : String) : String :=
  String.ofList (List.replicate (width - s.length) ' ') ++ s

/-- Texts in the order of their code points; equal texts keep their order. -/
def sort (texts : List String) : List String :=
  texts.mergeSort fun a b => decide (a ≤ b)

theorem sort_perm (texts : List String) : (sort texts).Perm texts :=
  List.mergeSort_perm texts _

@[simp] theorem mem_sort {texts : List String} {s : String} : s ∈ sort texts ↔ s ∈ texts :=
  (sort_perm texts).mem_iff

/-- Things that are sorted by a text come out in the order of these texts. -/
theorem pairwise_mergeSort_key {α : Type u} (key : α → String) (items : List α) :
    (items.mergeSort fun a b => decide (key a ≤ key b)).Pairwise fun a b => key a ≤ key b := by
  have h : (items.mergeSort fun a b => decide (key a ≤ key b)).Pairwise
      fun a b => decide (key a ≤ key b) = true := List.pairwise_mergeSort
    (fun a b c hab hbc => by simp only [decide_eq_true_eq] at *; exact String.le_trans hab hbc)
    (fun a b => by simpa using String.le_total (key a) (key b)) items
  exact h.imp fun hab => by simpa using hab

/-- The texts come out in order. -/
theorem pairwise_sort (texts : List String) : (sort texts).Pairwise (· ≤ ·) :=
  pairwise_mergeSort_key id texts

/-- The order in which texts are given does not matter. -/
theorem sort_eq_of_perm {texts texts' : List String} (h : texts.Perm texts') :
    sort texts = sort texts' :=
  List.Perm.eq_of_pairwise (fun _ _ _ _ => String.le_antisymm) (pairwise_sort texts)
    (pairwise_sort texts') ((sort_perm texts).trans (h.trans (sort_perm texts').symm))

end Text
end EditorShell

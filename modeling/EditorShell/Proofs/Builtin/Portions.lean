import EditorShell.Builtin.Reading
import EditorShell.Proofs.Text.Pieces

/-!
# Parts of files

`head` and `tail` cut a text into lines or characters and select some of these units. What they
select has the selected units for its own (`of_slice`), so the laws of parts are the laws of selecting
from a list: the first so many and the last of the rest make up the whole, a part of a part is the
smaller of the two, and a count that is large enough takes everything (`slices_partition`).
-/

namespace EditorShell
namespace Builtin

variable {α : Type} {part : Part} {units : Units} {l : List α} {count : Int} {k m : Nat}

/-! ## Units -/

namespace Units

theorem flatten_of (units : Units) (cs : List Char) : (units.of cs).flatten = cs := by
  cases units with
  | lines => exact Text.flatten_pieces cs
  | characters => rw [of, ← List.flatMap_def, List.flatMap_singleton']

theorem of_take (units : Units) (cs : List Char) (k : Nat) :
    units.of ((units.of cs).take k).flatten = (units.of cs).take k := by
  cases units with
  | lines => exact Text.pieces_take cs k
  | characters =>
    have htake : (characters.of cs).take k = characters.of (cs.take k) := List.map_take.symm
    rw [htake, flatten_of]

theorem of_drop (units : Units) (cs : List Char) (k : Nat) :
    units.of ((units.of cs).drop k).flatten = (units.of cs).drop k := by
  cases units with
  | lines => exact Text.pieces_drop cs k
  | characters =>
    have hdrop : (characters.of cs).drop k = characters.of (cs.drop k) := List.map_drop.symm
    rw [hdrop, flatten_of]

end Units

/-- **A part of a text is made of the units that are selected,** and has no others. -/
theorem of_slice (part : Part) (units : Units) (count : Int) (text : String) :
    units.of (slice part units count text).toList = part.select count (units.of text.toList) := by
  rw [slice, String.toList_ofList]
  cases part with
  | head => exact units.of_take _ _
  | tail => exact units.of_drop _ _

/-! ## Selection -/

namespace Part

theorem select_head (k : Nat) (l : List α) : head.select k l = l.take k := rfl

theorem select_tail (k : Nat) (l : List α) : tail.select k l = l.drop (l.length - k) := by
  rw [select]
  congr 1
  omega

theorem select_head_append_tail (h : k ≤ l.length) :
    head.select k l ++ tail.select (l.length - k : Nat) l = l := by
  rw [select_head, select_tail, Nat.sub_sub_self h, List.take_append_drop]

theorem select_select (part : Part) (k m : Nat) (l : List α) :
    part.select k (part.select m l) = part.select (min k m : Nat) l := by
  cases part with
  | head => rw [select_head, select_head, select_head, List.take_take]
  | tail =>
    rw [select_tail, select_tail, select_tail, List.drop_drop, List.length_drop]
    congr 1
    omega

theorem select_of_length_le (part : Part) (h : (l.length : Int) ≤ count) :
    part.select count l = l := by
  obtain ⟨n, rfl⟩ := Int.eq_ofNat_of_zero_le (Int.le_trans (Int.natCast_nonneg _) h)
  have hn : l.length ≤ n := Int.ofNat_le.1 h
  cases part with
  | head => exact List.take_of_length_le hn
  | tail => rw [select_tail, Nat.sub_eq_zero_of_le hn, List.drop_zero]

end Part

/-! ## Pairs -/

theorem exists_after_head (count : Int) (text : String) :
    ∃ rest, text.toList = (slice .head .lines count text).toList ++ rest ∧
      ¬Text.PartsPair (slice .head .lines count text).toList rest := by
  rw [slice, String.toList_ofList]
  exact ⟨_, (Text.flatten_take_append_drop _ _).symm, Text.not_partsPair _ _⟩

theorem exists_before_tail (count : Int) (text : String) :
    ∃ rest, text.toList = rest ++ (slice .tail .lines count text).toList ∧
      ¬Text.PartsPair rest (slice .tail .lines count text).toList := by
  rw [slice, String.toList_ofList]
  exact ⟨_, (Text.flatten_take_append_drop _ _).symm, Text.not_partsPair _ _⟩

/-! ## The commands -/

/-- Of one file the command shows the part alone. -/
theorem showPart_eq {s : Surroundings} {session : Session} {option letter value file text : String}
    (hoption : unitsOf? option = some (units, letter)) (hvalue : Text.readInt? value = some count)
    (hfile : unitsOf? file = none) (hread : readFor part.command s session file = .ok text) :
    showPart part s session [option, value, file] = .ok (.ok (slice part units count text)) := by
  have hportion : portionOf part.command ⟨10, .lines, []⟩ [option, value, file] =
      .ok ⟨count, units, [file]⟩ := by
    simp [portionOf, hoption, hvalue, hfile]
  have hblocks : partBlocks part s session ⟨count, units, [file]⟩ false [file] =
      .ok [slice part units count text] := by
    simp [partBlocks, hread, bind, Except.bind, pure, Except.pure]
  simp [showPart, hportion, hblocks, Text.joinLines]

/-- **Parts of a file add up and nest.** Of `u` units the first `k` and the last `u - k` make up the
text, for lines as for characters; the first `k` units of the first `m` are the smaller number of
them, and so it is with the last; and a count of at least `u` takes all. A part that is made of lines
parts no carriage return from its line feed, whatever the count. Asked for so many units of a file,
`head` and `tail` show this part. -/
theorem slices_partition (units : Units) (text : String) :
    (∀ k ≤ (units.of text.toList).length,
      slice .head units k text ++ slice .tail units ((units.of text.toList).length - k : Nat) text =
        text) ∧
      (∀ (part : Part) (k m : Nat), slice part units k (slice part units m text) =
        slice part units (min k m : Nat) text) ∧
      (∀ (part : Part) (count : Int), ((units.of text.toList).length : Int) ≤ count →
        slice part units count text = text) ∧
      (∀ count, ∃ rest, text.toList = (slice .head .lines count text).toList ++ rest ∧
        ¬Text.PartsPair (slice .head .lines count text).toList rest) ∧
      (∀ count, ∃ rest, text.toList = rest ++ (slice .tail .lines count text).toList ∧
        ¬Text.PartsPair rest (slice .tail .lines count text).toList) ∧
      ∀ (part : Part) (s : Surroundings) (session : Session) (option letter value file : String)
        (count : Int), unitsOf? option = some (units, letter) →
        Text.readInt? value = some count → unitsOf? file = none →
        readFor part.command s session file = .ok text →
        showPart part s session [option, value, file] =
          .ok (.ok (slice part units count text)) := by
  refine ⟨fun k hk => ?_, fun part k m => ?_, fun part count h => ?_, fun count => ?_,
    fun count => ?_, fun part s session option letter value file count => showPart_eq⟩
  · rw [slice, slice, ← String.ofList_append, ← List.flatten_append,
      Part.select_head_append_tail hk, units.flatten_of, String.ofList_toList]
  · rw [slice, of_slice, Part.select_select, slice]
  · rw [slice, part.select_of_length_le h, units.flatten_of, String.ofList_toList]
  · exact exists_after_head count text
  · exact exists_before_tail count text

/-- What `head` is told in the example. -/
def reading : Surroundings := ⟨.default, "head", .empty, ⟨2024, 1, 2⟩⟩

/-- A session with a file of four lines, of which the second ends in a pair. -/
def fourLines : Session where
  store := { Store.empty with files := .ofList [("/f", ⟨"a\rb\r\n\nc", none, none⟩)] }
  environment := .empty
  aliases := .empty
  history := ⟨[], 100, 100⟩

theorem slices_partition_pair :
    2 ≤ (Units.lines.of "a\rb\r\n\nc".toList).length ∧
      slice .head .lines 2 "a\rb\r\n\nc" ++ slice .tail .lines 2 "a\rb\r\n\nc" =
        "a\rb\r\n\nc" ∧
      slice .tail .lines 1 (slice .tail .lines 3 "a\rb\r\n\nc") = "c" ∧
      ((Units.lines.of "a\rb\r\n\nc".toList).length : Int) ≤ 9 ∧
      slice .tail .lines 9 "a\rb\r\n\nc" = "a\rb\r\n\nc" ∧
      unitsOf? "-n" = some (.lines, "n") ∧ Text.readInt? "2" = some 2 ∧ unitsOf? "f" = none ∧
      readFor "head" reading fourLines "f" = .ok "a\rb\r\n\nc" ∧
      showPart .head reading fourLines ["-n", "2", "f"] = .ok (.ok "a\rb\r\n") := by
  have hlength : (Units.lines.of "a\rb\r\n\nc".toList).length = 4 := by decide
  have hread : readFor "head" reading fourLines "f" = .ok "a\rb\r\n\nc" := by rfl
  obtain ⟨hadd, hnest, hall, -, -, hshow⟩ := slices_partition .lines "a\rb\r\n\nc"
  have htwo := hadd 2 (by decide)
  rw [hlength] at htwo
  have hpart : slice .head .lines 2 "a\rb\r\n\nc" = "a\rb\r\n" := by decide
  have hshown := hshow .head reading fourLines "-n" "n" "2" "f" 2 rfl (by decide) rfl hread
  rw [hpart] at hshown
  exact ⟨by decide, htwo, (hnest .tail 1 3).trans (by decide), by decide, hall .tail 9 (by decide),
    rfl, by decide, rfl, hread, hshown⟩

end Builtin
end EditorShell

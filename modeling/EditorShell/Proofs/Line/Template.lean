import EditorShell.Proofs.Line.Expansion
import Mathlib.Data.String.Basic

/-!
# A text is expanded piece by piece

A text that is put together from pieces, each a literal text, a reference or a dollar sign that
refers to nothing, is expanded by putting together what the pieces stand for (`expand_spell`). Each
piece is read back where it was put, because the one before it does not reach into it: a reference
in braces ends with its brace, one without braces is followed by no character that a name may hold,
and a dollar sign that stands for itself by none that makes a reference of it. What a reference
stands for comes out as it is, so a value is never read as a text with references.
-/

namespace EditorShell
namespace Variable

/-- A part of a text. -/
inductive Piece where
  | literal (text : String)
  /-- A reference in braces. -/
  | braced (name : String)
  /-- A reference without braces. -/
  | bare (name : String)
  /-- A dollar sign that refers to nothing. -/
  | stray
deriving DecidableEq, Repr

namespace Piece

/-- The piece as it stands in a text. -/
def spelled : Piece → String
  | .literal text => text
  | .braced name => "$\x7b" ++ name ++ "\x7d"
  | .bare name => "$" ++ name
  | .stray => "$"

/-- What the piece stands for: a reference for the value of its variable, anything else for
itself. -/
def filled (environment : Table String) : Piece → String
  | .literal text => text
  | .braced name | .bare name => environment.getD name ""
  | .stray => "$"

/-- The piece is what it is when `rest` follows: a literal text holds no dollar sign, a reference
has a name, and the next character does not go on with it. -/
def Fits (rest : List Char) : Piece → Prop
  | .literal text => '$' ∉ text.toList
  | .braced name => isName name.toList = true
  | .bare name => isName name.toList = true ∧ ∀ c ∈ rest.head?, isNameChar c = false
  | .stray => ∀ c ∈ rest.head?, isNameStart c = false ∧ c ≠ '\x7b'

instance (rest : List Char) : DecidablePred (Fits rest)
  | .literal text => inferInstanceAs (Decidable ('$' ∉ text.toList))
  | .braced name => inferInstanceAs (Decidable (isName name.toList = true))
  | .bare name => decidable_of_iff
    (isName name.toList = true ∧ rest.head?.all (!isNameChar ·) = true)
    (by simp [Fits, Option.all_eq_true])
  | .stray => decidable_of_iff (rest.head?.all (fun c => !isNameStart c && c != '\x7b') = true)
    (by simp [Fits, Option.all_eq_true])

end Piece

/-- The text that pieces spell. -/
def spell (pieces : List Piece) : String := String.join (pieces.map Piece.spelled)

/-- The text that pieces stand for. -/
def fill (environment : Table String) (pieces : List Piece) : String :=
  String.join (pieces.map (Piece.filled environment))

/-- Each piece fits before the text that the pieces after it spell. -/
def Fitting : List Piece → Prop
  | [] => True
  | piece :: pieces => piece.Fits (spell pieces).toList ∧ Fitting pieces

instance Fitting.decidable : DecidablePred Fitting
  | [] => inferInstanceAs (Decidable True)
  | piece :: pieces =>
    have := Fitting.decidable pieces
    inferInstanceAs (Decidable (piece.Fits (spell pieces).toList ∧ Fitting pieces))

variable {value : List Char → List Char} {text name rest : List Char} {pieces : List Piece}

/-! ## One piece -/

/-- The characters of a literal text are passed over. -/
theorem substitute_literal (h : '$' ∉ text) :
    substitute value (text ++ rest) = text ++ substitute value rest := by
  induction text with
  | nil => rfl
  | cons c cs ih =>
    rw [List.mem_cons, not_or] at h
    rw [List.cons_append, substitute, if_neg (Ne.symm h.1), ih h.2, List.cons_append]

/-- A dollar sign and what is read as a reference after it are replaced by the value. -/
theorem substitute_of_reference? {cs : List Char} (h : reference? cs = some (name, rest)) :
    substitute value ('$' :: cs) = value name ++ substitute value rest := by
  rw [substitute, if_pos rfl]
  split
  next hread =>
    obtain ⟨rfl, rfl⟩ := Prod.mk.inj (Option.some.inj (h.symm.trans hread))
    rfl
  next hread =>
    rw [h] at hread
    cases hread

theorem substitute_of_not_reference? (h : reference? rest = none) :
    substitute value ('$' :: rest) = '$' :: substitute value rest := by
  rw [substitute, if_pos rfl]
  split
  next hread =>
    rw [h] at hread
    cases hread
  · rfl

/-- A name is read to its end if no further character of a name follows. -/
theorem reference?_bare_of_head? (hname : isName name = true)
    (hrest : ∀ c ∈ rest.head?, isNameChar c = false) :
    reference? (name ++ rest) = some (name, rest) := by
  rw [reference?_bare hname]
  cases rest with
  | nil => simp
  | cons c cs =>
    have hc : ¬isNameChar c = true := by simp [hrest c rfl]
    rw [List.takeWhile_cons_of_neg hc, List.dropWhile_cons_of_neg hc, List.append_nil]

theorem reference?_eq_none (h : ∀ c ∈ rest.head?, isNameStart c = false ∧ c ≠ '\x7b') :
    reference? rest = none := by
  cases rest with
  | nil => rfl
  | cons c cs =>
    obtain ⟨hstart, hbrace⟩ := h c rfl
    rw [reference?, if_neg hbrace, if_neg (by simp [hstart])]

/-- **A piece is replaced by what it stands for,** whatever follows, as long as it fits. -/
theorem substitute_spelled (environment : Table String) {piece : Piece} (h : piece.Fits rest) :
    substitute (Variable.value environment) (piece.spelled.toList ++ rest) =
      (piece.filled environment).toList ++ substitute (Variable.value environment) rest := by
  cases piece with
  | literal text => exact substitute_literal h
  | braced name =>
    have hspelled : (Piece.braced name).spelled.toList ++ rest =
        '$' :: '\x7b' :: (name.toList ++ '\x7d' :: rest) := by simp [Piece.spelled]
    rw [hspelled, substitute_of_reference? (reference?_braced h rest), Variable.value,
      String.ofList_toList]
    rfl
  | bare name =>
    have hspelled : (Piece.bare name).spelled.toList ++ rest = '$' :: (name.toList ++ rest) := by
      simp [Piece.spelled]
    rw [hspelled, substitute_of_reference? (reference?_bare_of_head? h.1 h.2), Variable.value,
      String.ofList_toList]
    rfl
  | stray =>
    have hnone : substitute (Variable.value environment) ('$' :: rest) =
        '$' :: substitute (Variable.value environment) rest :=
      substitute_of_not_reference? (reference?_eq_none h)
    simpa [Piece.spelled, Piece.filled] using hnone

/-! ## A text -/

theorem toList_spell_cons (piece : Piece) (pieces : List Piece) :
    (spell (piece :: pieces)).toList = piece.spelled.toList ++ (spell pieces).toList := by
  simp [spell]

theorem fill_cons (environment : Table String) (piece : Piece) (pieces : List Piece) :
    fill environment (piece :: pieces) = piece.filled environment ++ fill environment pieces := by
  simp [fill]

/-- **A text is expanded piece by piece.** If each piece fits where it stands, the expansion of the
text that the pieces spell is the text that they stand for: literal texts and stray dollar signs are
unchanged, and in the place of each reference stands the value of its variable, as it is, or nothing
if there is none. -/
theorem expand_spell (h : Fitting pieces) (environment : Table String) :
    expand environment (spell pieces) = fill environment pieces := by
  rw [expand, ← String.toList_inj, String.toList_ofList]
  induction pieces with
  | nil => simp [spell, fill, substitute]
  | cons piece pieces ih =>
    rw [toList_spell_cons, substitute_spelled environment h.1, ih h.2, fill_cons,
      String.toList_append]

/-- No reference reaches into its neighbour, and a value that spells references is left as it
is. -/
theorem expand_spell_tight :
    let environment := Table.ofList [("A", "$B$\x7bA\x7d"), ("B", "$")]
    let pieces : List Piece :=
      [.stray, .bare "A", .braced "A", .literal "B", .stray, .literal "5", .bare "B", .stray,
        .literal "", .braced "unset", .bare "_", .literal "-\x7bA\x7d", .stray]
    Fitting pieces ∧ spell pieces = "$$A$\x7bA\x7dB$5$B$$\x7bunset\x7d$_-\x7bA\x7d$" ∧
      expand environment (spell pieces) =
        "$$B$\x7bA\x7d$B$\x7bA\x7dB$5$$-\x7bA\x7d$" := by
  intro environment pieces
  have hfits : Fitting pieces := by decide +kernel
  refine ⟨hfits, by decide +kernel, (expand_spell hfits environment).trans ?_⟩
  decide +kernel

end Variable
end EditorShell

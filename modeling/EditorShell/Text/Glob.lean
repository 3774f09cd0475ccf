import EditorShell.Text.Basic

/-!
# Glob patterns

A pattern matches a whole text, case and all: `*` stands for any run of characters, `?` for one
character, `[seq]` for one character of a set and `[!seq]` for one outside it. A `]` that comes
first in a set belongs to it, and a `[` that is never closed stands for itself.

Inside a set `a-z` is a range. A hyphen can join two characters only if it does not stand first,
and not within the two characters after an earlier joining hyphen; a hyphen that stands last is a
member. A range whose ends are out of order is dropped with its ends, and only then is it decided
whether the set starts with `!`.

`Glob.piecesMatch` says when the pieces of a pattern match a text. It is not how a match is found,
because it tries the runs of one `*` for each run of another: `Glob.ends` tells for all ends of the
text at once which of them the pieces match, from the last piece to the first.
-/

namespace EditorShell
namespace Text
namespace Glob

/-- What one place of a pattern admits. -/
inductive Piece where
  /-- Any run of characters, the empty one included. -/
  | many
  /-- One character within one of the ranges, or outside all of them. -/
  | one (negated : Bool) (ranges : List (Char × Char))
deriving DecidableEq, Repr

/-- One character, whichever it is. -/
def Piece.anyChar : Piece := .one true []

/-- The character `c` and no other. -/
def Piece.literal (c : Char) : Piece := .one false [(c, c)]

/-! ## Sets -/

/-- Splits off the characters at the front of a set that cannot close it. -/
def setLead : List Char → List Char × List Char
  | '!' :: ']' :: cs => (['!', ']'], cs)
  | '!' :: cs => (['!'], cs)
  | ']' :: cs => ([']'], cs)
  | cs => ([], cs)

theorem append_setLead (cs : List Char) : (setLead cs).1 ++ (setLead cs).2 = cs := by
  unfold setLead; split <;> rfl

/-- The text of a set and what follows its closing bracket, read after the opening one. -/
def setText? (cs : List Char) : Option (List Char × List Char) :=
  match cutFirst ']' (setLead cs).2 with
  | (inside, some rest) => some ((setLead cs).1 ++ inside, rest)
  | (_, none) => none

theorem length_of_setText? {cs inside rest : List Char} (h : setText? cs = some (inside, rest)) :
    rest.length < cs.length := by
  unfold setText? at h
  split at h
  next i r hcut =>
    obtain ⟨_, rfl⟩ := Prod.mk.inj (Option.some.inj h)
    have hbody := congrArg List.length (append_of_cutFirst hcut)
    have hcs := congrArg List.length (append_setLead cs)
    simp only [List.length_append, List.length_cons] at hbody hcs
    omega
  · simp at h

/-- The parts of a set's text between its joining hyphens. The first `skip` characters of a part
hold none. -/
def chunks (skip : Nat) (cs : List Char) : List (List Char) :=
  match _h : cutFirst '-' (cs.drop skip) with
  | (inside, some rest) => (cs.take skip ++ inside) :: chunks 2 rest
  | (_, none) => [cs]
termination_by cs.length
decreasing_by
  have := congrArg List.length (append_of_cutFirst _h)
  simp at this
  omega

/-- An empty last part means that the last hyphen joins nothing and is a member. -/
def closeLast : List (List Char) → List (List Char)
  | [chunk, []] => [chunk ++ ['-']]
  | [] => []
  | chunk :: rest => chunk :: closeLast rest

/-- Puts a part before the others. If the range between it and the next one has its ends out of
order, the two parts grow together without these ends. -/
def consChunk (chunk : List Char) : List (List Char) → List (List Char)
  | [] => [chunk]
  | next :: rest =>
    match chunk.getLast?, next with
    | some a, b :: next' =>
      if b < a then (chunk.dropLast ++ next') :: rest else chunk :: next :: rest
    | _, _ => chunk :: next :: rest

/-- The members of a set's text: characters, and hyphens that join (`none`). -/
def setItems (inside : List Char) : List (Option Char) :=
  if inside.contains '-' then
    let skip := if inside.head? = some '!' then 2 else 1
    let parts := (closeLast (chunks skip inside)).foldr consChunk []
    [none].intercalate (parts.map (·.map some))
  else inside.map some

/-- The ranges that members of a set stand for. -/
def ranges : List (Option Char) → List (Char × Char)
  | [] => []
  | some a :: none :: some b :: items => (a, b) :: ranges items
  | some a :: items => (a, a) :: ranges items
  | none :: items => ('-', '-') :: ranges items

/-- The piece for a set with the given text. -/
def Piece.ofSet (inside : List Char) : Piece :=
  match setItems inside with
  | some '!' :: items => .one true (ranges items)
  | items => .one false (ranges items)

/-! ## Patterns -/

/-- The pieces of a pattern. -/
def pieces : List Char → List Piece
  | [] => []
  | '*' :: cs => .many :: pieces cs
  | '?' :: cs => .anyChar :: pieces cs
  | '[' :: cs =>
    match _h : setText? cs with
    | some (inside, rest) => .ofSet inside :: pieces rest
    | none => .literal '[' :: pieces cs
  | c :: cs => .literal c :: pieces cs
termination_by cs => cs.length
decreasing_by
  all_goals simp_wf
  all_goals first | omega | have hlt := length_of_setText? _h; omega

/-- Some end of the text, the whole of it included, satisfies `p`. -/
def anySuffix (p : List Char → Bool) : List Char → Bool
  | [] => p []
  | c :: cs => p (c :: cs) || anySuffix p cs

/-- The piece admits the character. -/
def Piece.admits (negated : Bool) (ranges : List (Char × Char)) (c : Char) : Bool :=
  (ranges.any fun (a, b) => a ≤ c && c ≤ b) != negated

/-- The pieces match the whole text. -/
def piecesMatch : List Piece → List Char → Bool
  | [], cs => cs.isEmpty
  | .many :: ps, cs => anySuffix (piecesMatch ps) cs
  | .one negated ranges :: ps, c :: cs => Piece.admits negated ranges c && piecesMatch ps cs
  | .one _ _ :: _, [] => false

/-! ## Matching all ends at once -/

/-- What `p` says of each end of a text, from the whole text to the empty one. -/
def eachEnd (p : List Char → Bool) : List Char → List Bool
  | [] => [p []]
  | c :: cs => p (c :: cs) :: eachEnd p cs

/-- At each place, whether this flag or a later one is set. -/
def laterFlags : List Bool → List Bool
  | [] => []
  | flag :: flags =>
    let later := laterFlags flags
    (flag || later.head?.getD false) :: later

/-- Which ends of a text the pieces match, from the whole text to the empty one. -/
def ends : List Piece → List Char → List Bool
  | [], cs => cs.map (fun _ => false) ++ [true]
  | .many :: ps, cs => laterFlags (ends ps cs)
  | .one negated ranges :: ps, cs =>
    cs.zipWith (fun c flag => Piece.admits negated ranges c && flag) (ends ps cs).tail ++ [false]

theorem laterFlags_eachEnd (p : List Char → Bool) (cs : List Char) :
    laterFlags (eachEnd p cs) = eachEnd (anySuffix p) cs := by
  induction cs with
  | nil => simp [eachEnd, laterFlags, anySuffix]
  | cons c cs ih =>
    have hhead : (eachEnd (anySuffix p) cs).head? = some (anySuffix p cs) := by
      cases cs <;> rfl
    simp [eachEnd, laterFlags, ih, anySuffix, hhead]

theorem eachEnd_one (negated : Bool) (ranges : List (Char × Char)) (ps : List Piece)
    (cs : List Char) :
    cs.zipWith (fun c flag => Piece.admits negated ranges c && flag)
        (eachEnd (piecesMatch ps) cs).tail ++ [false] =
      eachEnd (piecesMatch (.one negated ranges :: ps)) cs := by
  induction cs with
  | nil => rfl
  | cons c cs ih => cases cs <;> simp_all [eachEnd, piecesMatch]

/-- The ends are those that the pieces match. -/
theorem ends_eq (ps : List Piece) (cs : List Char) :
    ends ps cs = eachEnd (piecesMatch ps) cs := by
  induction ps with
  | nil => induction cs with
    | nil => rfl
    | cons c cs ih => simp_all [ends, eachEnd, piecesMatch]
  | cons piece ps ih =>
    cases piece with
    | many =>
      rw [ends, ih, laterFlags_eachEnd]
      congr 1
    | one negated ranges => rw [ends, ih, eachEnd_one]

end Glob

/-- The pattern matches the whole text. -/
def globMatches (pattern s : String) : Bool :=
  (Glob.ends (Glob.pieces pattern.toList) s.toList).head?.getD false

theorem globMatches_eq (pattern s : String) :
    globMatches pattern s = Glob.piecesMatch (Glob.pieces pattern.toList) s.toList := by
  rw [globMatches, Glob.ends_eq]
  cases s.toList <;> rfl

end Text
end EditorShell

/-!
# Classes of code points given by ranges

A class that a standard lists is stored as its ranges, both ends included.
-/

namespace EditorShell
namespace Text

/-- Ranges of code points, both ends included. -/
abbrev CodePoints := Array (Nat × Nat)

/-- The character lies in one of the ranges. -/
def CodePoints.holds (ranges : CodePoints) (c : Char) : Bool :=
  ranges.any fun (first, last) => first ≤ c.toNat && c.toNat ≤ last

end Text
end EditorShell

import EditorShell.Text.Case.Mapping
import EditorShell.Text.Case.Context

/-!
# Lower and upper case

Full case mapping: a letter may become several (`ß` is `SS` in upper case), and a capital sigma at
the end of a word becomes the final sigma `ς` in lower case, `σ` elsewhere.
-/

namespace EditorShell
namespace Text

namespace Case

/-- The first character of `cs` that is not case-ignorable is cased. -/
def nextIsCased (cs : List Char) : Bool :=
  match cs.dropWhile ignorableRanges.holds with
  | [] => false
  | c :: _ => casedRanges.holds c

/-- The lower case of `c` between the characters before it, nearest first, and those after it. -/
def lowerAt (before : List Char) (c : Char) (after : List Char) : List Char :=
  if c = 'Σ' then
    if nextIsCased before && !nextIsCased after then ['ς'] else ['σ']
  else image lowerExpansions lowerRuns c

/-- Lower case of the rest of a text whose characters so far are `before`, nearest first. -/
def lowerFrom (before : List Char) : List Char → List Char
  | [] => []
  | c :: cs => lowerAt before c cs ++ lowerFrom (c :: before) cs

end Case

/-- The text in lower case. -/
def lower (s : String) : String := String.ofList (Case.lowerFrom [] s.toList)

/-- The text in upper case. -/
def upper (s : String) : String :=
  String.ofList (s.toList.flatMap (Case.image Case.upperExpansions Case.upperRuns))

end Text
end EditorShell

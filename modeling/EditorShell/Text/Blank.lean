import EditorShell.Text.Basic

/-!
# Blank characters

A blank separates words on a command line and is trimmed from the ends of a line. The class is the
Unicode white space together with the four information separators U+001C to U+001F.
-/

namespace EditorShell
namespace Text

/-- White space in the widest sense, 29 characters in all. -/
def isBlank (c : Char) : Bool :=
  let n := c.toNat
  (0x09 ≤ n && n ≤ 0x0D) || (0x1C ≤ n && n ≤ 0x20) || n == 0x85 || n == 0xA0 || n == 0x1680 ||
    (0x2000 ≤ n && n ≤ 0x200A) || n == 0x2028 || n == 0x2029 || n == 0x202F || n == 0x205F ||
    n == 0x3000

/-- The text without the blanks at its ends. -/
def strip (s : String) : String := trimBoth isBlank s

/-- The runs of characters between blanks. -/
def words (s : String) : List (List Char) :=
  (s.toList.splitOnP isBlank).filter (· ≠ [])

end Text
end EditorShell

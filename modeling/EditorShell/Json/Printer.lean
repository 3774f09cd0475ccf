import EditorShell.Json

/-!
# Writing JSON

A value is written on one line without spaces, or with one element or member to a line, indented by
its depth; an empty list or object is never broken. What a text writes for a character is part of
the style: control characters and the two characters with a meaning of their own are always
escaped, and `Style.ascii` escapes everything that is not printable ASCII as well.
-/

namespace EditorShell
namespace Json

/-- The escape of a character that must not stand for itself in a text. -/
def escapeControl? (c : Char) : Option (List Char) :=
  match c with
  | '"' => some ['\\', '"']
  | '\\' => some ['\\', '\\']
  | '\x08' => some ['\\', 'b']
  | '\t' => some ['\\', 't']
  | '\n' => some ['\\', 'n']
  | '\x0c' => some ['\\', 'f']
  | '\r' => some ['\\', 'r']
  | c => if c.toNat < 0x20 then some ('\\' :: 'u' :: Text.hex 4 c.toNat) else none

/-- A character as texts write it when every character may stand for itself. -/
def escape (c : Char) : List Char := (escapeControl? c).getD [c]

/-- A character as texts write it in printable ASCII: beyond it, by its one or two 16-bit units. -/
def escapeAscii (c : Char) : List Char :=
  (escapeControl? c).getD <|
    let n := c.toNat
    if n < 0x7F then [c]
    else if n < 0x10000 then '\\' :: 'u' :: Text.hex 4 n
    else
      let m := n - 0x10000
      '\\' :: 'u' :: Text.hex 4 (0xD800 + m / 0x400) ++
        ('\\' :: 'u' :: Text.hex 4 (0xDC00 + m % 0x400))

/-- How values are laid out. -/
structure Style where
  /-- Spaces for each level, or nothing for one line. -/
  indent : Option Nat
  /-- What a text writes for a character. -/
  escape : Char → List Char

/-- Every character stands for itself where it can. -/
def Style.plain (indent : Option Nat) : Style := ⟨indent, Json.escape⟩

/-- Nothing but printable ASCII. -/
def Style.ascii (indent : Option Nat) : Style := ⟨indent, Json.escapeAscii⟩

/-- A text between quotes. -/
def quote (style : Style) (s : String) : List Char :=
  '"' :: (s.toList.flatMap style.escape ++ ['"'])

/-- The break before an element at the given level. -/
def newline (style : Style) (level : Nat) : List Char :=
  match style.indent with
  | none => []
  | some width => '\n' :: List.replicate (width * level) ' '

/-- The sign between a key and its value. -/
def colon (style : Style) : List Char :=
  match style.indent with
  | none => [':']
  | some _ => [':', ' ']

mutual

/-- A value that stands at the given level. -/
def write (style : Style) (level : Nat) : Json → List Char
  | .null => "null".toList
  | .bool b => if b then "true".toList else "false".toList
  | .int n => (toString n).toList
  | .real x => x.toText.toList
  | .string s => quote style s
  | .array [] => ['[', ']']
  | .array (v :: vs) =>
    '[' :: (newline style (level + 1) ++ write style (level + 1) v ++
      (writeElements style (level + 1) vs ++ (newline style level ++ [']'])))
  | .object [] => ['\x7b', '\x7d']
  | .object ((key, v) :: members) =>
    '\x7b' :: (newline style (level + 1) ++ (quote style key ++ colon style) ++
      write style (level + 1) v ++
      (writeMembers style (level + 1) members ++ (newline style level ++ ['\x7d'])))

/-- Further elements, each after a comma. -/
def writeElements (style : Style) (level : Nat) : List Json → List Char
  | [] => []
  | v :: vs =>
    ',' :: (newline style level ++ write style level v ++ writeElements style level vs)

/-- Further members, each after a comma. -/
def writeMembers (style : Style) (level : Nat) : List (String × Json) → List Char
  | [] => []
  | (key, v) :: members =>
    ',' :: (newline style level ++ (quote style key ++ colon style) ++ write style level v ++
      writeMembers style level members)

end

/-- A value as text. -/
def render (style : Style) (v : Json) : String := String.ofList (write style 0 v)

end Json
end EditorShell

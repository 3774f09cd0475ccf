import EditorShell.Text.Hex
import EditorShell.Text.Printable
import EditorShell.Text.Symbol

/-!
# Quoted texts

The unambiguous display of a text in messages: between single quotes, or between double quotes if
the text holds a single quote and no double quote. The quote in use and the backslash are escaped,
and so is every character that is not printable and every lone unit.
-/

namespace EditorShell
namespace Text

/-- One character of a text displayed between `quote` marks. -/
def quotedChar (quote c : Char) : List Char :=
  if c = quote || c = '\\' then ['\\', c]
  else if c = '\t' then ['\\', 't']
  else if c = '\n' then ['\\', 'n']
  else if c = '\r' then ['\\', 'r']
  else if isPrintable c then [c]
  else if c.toNat < 0x100 then '\\' :: 'x' :: hex 2 c.toNat
  else if c.toNat < 0x10000 then '\\' :: 'u' :: hex 4 c.toNat
  else '\\' :: 'U' :: hex 8 c.toNat

/-- One symbol of a text displayed between `quote` marks. -/
def quotedSymbol (quote : Char) : Symbol → List Char
  | .char c => quotedChar quote c
  | .lone unit => '\\' :: 'u' :: hex 4 unit

/-- Symbols between quotes, with escapes. -/
def quotedSymbols (ss : List Symbol) : String :=
  let quote := if ss.contains (.char '\'') && !ss.contains (.char '"') then '"' else '\''
  String.ofList (quote :: (ss.flatMap (quotedSymbol quote) ++ [quote]))

/-- The text between quotes, with escapes. -/
def quoted (s : String) : String := quotedSymbols (symbols s)

end Text
end EditorShell

import EditorShell.Table
import EditorShell.Text.Blank

/-!
# The words of a command line

A line falls into words at blanks. Double quotes keep what is between them together and disappear;
`>` and `>>` outside quotes are words of their own, and only they redirect, so an argument can be
any text. A line with an odd number of quotes has no words.
-/

namespace EditorShell

/-- A word of a command line. -/
inductive Word where
  /-- A command name, an argument or a file name. -/
  | plain (text : String)
  /-- `>`, or `>>` if `append`. -/
  | operator (append : Bool)
deriving DecidableEq, Repr

namespace Word

/-- How an operator is written. -/
def operatorText (append : Bool) : String := if append then ">>" else ">"

/-- What the word is called when it stands where a command name is expected. -/
def text : Word → String
  | .plain text => text
  | .operator append => operatorText append

/-- The word that ends here: `none` stands for no word, which differs from an empty one. -/
def finish : Option (List Char) → List Word
  | none => []
  | some reversed => [.plain (String.ofList reversed.reverse)]

/-- The word with one character more. -/
def extend (c : Char) (word : Option (List Char)) : Option (List Char) := some (c :: word.getD [])

/-- The words from here on, after a begun `word` whose characters are held in reverse order, and
inside quotes if `quoted`. -/
def scan (quoted : Bool) (word : Option (List Char)) : List Char → Option (List Word)
  | [] => if quoted then none else some (finish word)
  | c :: cs =>
    if quoted then
      if c = '"' then scan false word cs else scan true (extend c word) cs
    else if c = '"' then scan true (some (word.getD [])) cs
    else if c = '>' then
      match cs with
      | '>' :: cs => (scan false none cs).map (finish word ++ .operator true :: ·)
      | cs => (scan false none cs).map (finish word ++ .operator false :: ·)
    else if Text.isBlank c then (scan false none cs).map (finish word ++ ·)
    else scan false (extend c word) cs

/-- The words of a line, unless a quote is left open. -/
def ofLine? (line : String) : Option (List Word) := scan false none line.toList

/-- The words with an alias in front replaced by the words of its text, once. -/
def expandAlias? (aliases : Table String) : List Word → Option (List Word)
  | [] => some []
  | word :: rest =>
    match aliases.get? word.text with
    | none => some (word :: rest)
    | some text => (ofLine? text).map (· ++ rest)

end Word
end EditorShell

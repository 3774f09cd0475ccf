import EditorShell.Line.Variable

/-!
# Command lines

The words of a line make up a command: a name, arguments, and perhaps a redirection of its output.
The word after an operator is the file to write to; of several redirections the last one counts.
-/

namespace EditorShell

/-- Where output goes: to the file, or to its end if `append`. -/
structure Redirection where
  target : String
  append : Bool
deriving DecidableEq, Repr

/-- A command line in parts. -/
structure CommandLine where
  name : Option String
  args : List String
  redirection : Option Redirection
deriving DecidableEq, Repr, Inhabited

/-- Why a line is no command line. -/
inductive SyntaxError where
  /-- A quote is left open. -/
  | openQuote
  /-- No file name follows this operator. -/
  | missingTarget (append : Bool)
  /-- There is a redirection, but no command. -/
  | missingCommand
deriving DecidableEq, Repr

/-- The error in words. -/
def SyntaxError.message : SyntaxError → String
  | .openQuote => "No closing quotation"
  | .missingTarget append =>
    "syntax error near unexpected token `" ++ Word.operatorText append ++ "'"
  | .missingCommand => "Redirection without command is not supported"

namespace CommandLine

/-- A line without words. -/
def blank : CommandLine := ⟨none, [], none⟩

/-- The plain words that are no file names, and the last redirection. -/
def arrange : List Word → Except SyntaxError (List String × Option Redirection)
  | [] => .ok ([], none)
  | .plain text :: words => do
    let (texts, redirection) ← arrange words
    return (text :: texts, redirection)
  | .operator append :: .plain target :: words => do
    let (texts, redirection) ← arrange words
    return (texts, redirection.or (some ⟨target, append⟩))
  | .operator append :: _ => .error (.missingTarget append)

/-- The command line that words make up. -/
def ofWords (words : List Word) : Except SyntaxError CommandLine := do
  match ← arrange words with
  | (name :: args, redirection) => return ⟨some name, args, redirection⟩
  | ([], some _) => .error .missingCommand
  | ([], none) => return blank

/-- The command line that a line of text stands for, with aliases and variables replaced. -/
def parse (aliases environment : Table String) (line : String) :
    Except SyntaxError CommandLine :=
  match (Word.ofLine? line).bind (Word.expandAlias? aliases) with
  | none => .error .openQuote
  | some words => ofWords (words.map (Word.expand environment))

end CommandLine
end EditorShell

import EditorShell.Builtin.Flags
import EditorShell.Command
import EditorShell.Text.Digits
import EditorShell.Text.Lines

/-!
# Commands that show text

`echo` shows its arguments; `cat`, `head`, `tail` and `wc` show files, their parts or their sizes,
and `stat` what is known of a path. Lines are counted by their breaks in `head` and `tail`, and by
line feeds in `wc`.
-/

namespace EditorShell
namespace Builtin

/-- Shows the arguments with spaces between them. -/
def echo (_ : Surroundings) (_ : Session) (args : List String) : Outcome :=
  .ok (.ok (" ".intercalate args))

/-! ## Whole files -/

/-- The text that `cat` shows for an operand, or why it shows none. -/
def catOne (s : Surroundings) (session : Session) (arg : String) : Except String String :=
  let path := session.resolve s.settings arg
  if session.store.isDirectory path then .error ("cat: " ++ arg ++ ": Is a directory")
  else match session.store.file path with
    | .ok file => .ok file.content
    | .error _ => .error ("cat: " ++ arg ++ ": No such file or directory")

/-- Shows files one under the other; operands that are no files are named in messages. -/
def cat (s : Surroundings) (session : Session) (args : List String) : Outcome :=
  if args.isEmpty then .error (.usage "cat: missing operand")
  else
    let answers : Answers String := args.map (catOne s session)
    .ok { Result.ofMessages answers.messages with stdout := Text.joinLines answers.values }

/-- The text of a file that `command` reads. -/
def readFor (command : String) (s : Surroundings) (session : Session) (arg : String) :
    Except String String :=
  let path := session.resolve s.settings arg
  if session.store.isDirectory path then
    .error (command ++ ": error reading '" ++ arg ++ "': Is a directory")
  else match session.store.file path with
    | .ok file => .ok file.content
    | .error _ =>
      .error (command ++ ": cannot open '" ++ arg ++ "' for reading: No such file or directory")

/-! ## Parts of files -/

/-- What `head` and `tail` count. -/
inductive Units where
  | lines
  | characters
deriving DecidableEq, Repr

/-- The units that make up a text. -/
def Units.of (text : List Char) : Units → List (List Char)
  | .lines => Text.pieces text
  | .characters => text.map fun c => [c]

/-- Which part of a file is shown. -/
inductive Part where
  | head
  | tail
deriving DecidableEq, Repr

/-- The command that shows the part. -/
def Part.command : Part → String
  | .head => "head"
  | .tail => "tail"

/-- The first or last `count` units. A negative count takes all but so many from the head and
nothing from the tail. -/
def Part.select {α : Type} (count : Int) (units : List α) : Part → List α
  | .head => units.take (if count < 0 then (units.length + count).toNat else count.toNat)
  | .tail => units.drop ((units.length : Int) - count).toNat

/-- A part of a text. -/
def slice (part : Part) (units : Units) (count : Int) (text : String) : String :=
  String.ofList (part.select count (units.of text.toList)).flatten

/-- How much of which files is shown. -/
structure Portion where
  count : Int
  units : Units
  files : List String

/-- The units that an option counts, and the letter by which it goes. -/
def unitsOf? : String → Option (Units × String)
  | "-n" => some (.lines, "n")
  | "-c" => some (.characters, "c")
  | _ => none

/-- Reads the arguments; the last count counts. -/
def portionOf (command : String) (portion : Portion) : List String → Except String Portion
  | [] => .ok portion
  | arg :: args =>
    match unitsOf? arg with
    | none => portionOf command { portion with files := portion.files ++ [arg] } args
    | some (units, letter) =>
      match args with
      | [] => .error (command ++ ": option requires an argument -- '" ++ letter ++ "'")
      | value :: args =>
        match Text.readInt? value with
        | none => .error (command ++ ": invalid number: '" ++ value ++ "'")
        | some count => portionOf command { portion with count := count, units := units } args

/-- The blocks shown for the files, each under a title if there are `several`, and with an empty
block between two of them. The first file that cannot be read ends the command. -/
def partBlocks (part : Part) (s : Surroundings) (session : Session) (portion : Portion)
    (several : Bool) : List String → Except String (List String)
  | [] => .ok []
  | file :: files => do
    let text ← readFor part.command s session file
    let rest ← partBlocks part s session portion several files
    let title := if several then ["==> " ++ file ++ " <=="] else []
    let gap := if files.isEmpty then [] else [""]
    return title ++ slice part portion.units portion.count text :: gap ++ rest

/-- Shows the first or the last ten lines of files, or as many units as an option asks for. -/
def showPart (part : Part) (s : Surroundings) (session : Session) (args : List String) : Outcome :=
  match portionOf part.command ⟨10, .lines, []⟩ args with
  | .error message => .ok (.fail message 1)
  | .ok portion =>
    if portion.files.isEmpty then .ok (.fail (part.command ++ ": missing file operand") 1)
    else match partBlocks part s session portion (1 < portion.files.length) portion.files with
      | .error message => .ok (.fail message 1)
      | .ok blocks => .ok (.ok (Text.joinLines blocks))

/-! ## Sizes -/

/-- What `wc` counts. -/
inductive Column where
  | lineFeeds
  | words
  | bytes
deriving DecidableEq, Repr

namespace Column

/-- All columns, in the order in which they are shown. -/
def all : List Column := [.lineFeeds, .words, .bytes]

/-- The option that chooses the column. -/
def option : Column → String
  | .lineFeeds => "-l"
  | .words => "-w"
  | .bytes => "-c"

/-- What the column shows for a text. -/
def count (text : String) : Column → Nat
  | .lineFeeds => text.toList.count '\n'
  | .words => (Text.words text).length
  | .bytes => text.utf8ByteSize

end Column

/-- The line that `wc` prints for a file. -/
def countLine (s : Surroundings) (session : Session) (columns : List Column) (file : String) :
    Except String String := do
  let text ← readFor "wc" s session file
  let counts := columns.map fun column => Text.padLeft 7 (toString (column.count text))
  return " ".intercalate counts ++ " " ++ file

/-- Counts line feeds, words and bytes of files, or only those that options choose. -/
def wc (s : Surroundings) (session : Session) (args : List String) : Outcome :=
  let chosen := Column.all.filter fun column => args.contains column.option
  let columns := if chosen.isEmpty then Column.all else chosen
  let files := withoutHyphen args
  if files.isEmpty then .ok (.fail "wc: missing file operand" 1)
  else match files.mapM (countLine s session columns) with
    | .error message => .ok (.fail message 1)
    | .ok lines => .ok (.ok (Text.joinLines lines))

/-- Shows path, size and kind of what lives at a path, and the type of a file that has one. -/
def stat (s : Surroundings) (session : Session) (args : List String) : Outcome :=
  match args with
  | [] => .error (.usage "stat: missing operand")
  | arg :: _ =>
    let path := session.resolve s.settings arg
    let describe (size : Nat) (kind : String) : List String :=
      ["  File: " ++ path, "  Size: " ++ Text.padRight 10 (toString size) ++ " Type: " ++ kind]
    if session.store.isDirectory path then .ok (.ok (Text.joinLines (describe 0 "directory")))
    else match session.store.file path with
      | .error _ =>
        .error (.refused ("stat: cannot stat '" ++ arg ++ "': No such file or directory"))
      | .ok file =>
        let kind := if file.size = 0 then "regular empty file" else "regular file"
        let mime := match file.mimeType with
          | some mime => if mime = "" then [] else ["  Mime: " ++ mime]
          | none => []
        .ok (.ok (Text.joinLines (describe file.size kind ++ mime)))

/-- The commands of this module. -/
def readingCommands : List Command := [
  ⟨⟨"echo", "Display text", "echo <text>...", "core", .never⟩, .view echo⟩,
  ⟨⟨"cat", "Print file contents", "cat <file>...", "core", .never⟩, .view cat⟩,
  ⟨⟨"head", "Output the first part of files", "head [-n N] <file>...", "core", .never⟩,
    .view (showPart .head)⟩,
  ⟨⟨"tail", "Output the last part of files", "tail [-n N] <file>...", "core", .never⟩,
    .view (showPart .tail)⟩,
  ⟨⟨"wc", "Count lines, words and bytes", "wc [-l|-w|-c] <file>...", "core", .never⟩, .view wc⟩,
  ⟨⟨"stat", "Display file status", "stat <path>", "core", .never⟩, .view stat⟩]

end Builtin
end EditorShell

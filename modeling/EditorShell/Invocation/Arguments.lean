import EditorShell.Text.Digits

/-!
# Command-line arguments

The program is called with one of two tasks: `exec` runs a single line, `shell` reads lines from the
input. Both take the options `--project`, `--save` and `--log-level`, each with a value in the next
argument or after `=`, and `-h` or `--help`. An option may be cut short as long as it is clear which
one is meant. After `--` nothing is an option, and a value `--` after `=` is dropped.

Each argument is first given a role by itself, and then the arguments are taken from left to right.
Help that is reached ends the program at once, as does an error; arguments that have no place are an
error only at the end.
-/

namespace EditorShell
namespace Invocation

/-- What an option has for a file. -/
inductive FileValue where
  | path (path : String)
  /-- The value was dropped, and there is no name. -/
  | dropped
deriving DecidableEq, Repr

/-- What the options choose. -/
structure Options where
  project : Option FileValue
  save : Option FileValue
  logLevel : Option String
deriving DecidableEq, Repr

/-- What the program is asked to do. -/
inductive Task where
  | exec (line : String)
  | shell
deriving DecidableEq, Repr

/-- A task with its options. -/
structure Request where
  task : Task
  options : Options
deriving DecidableEq, Repr

/-- Why the arguments ask for nothing. -/
inductive Halt where
  /-- Help was asked for. -/
  | help
  /-- The arguments do not fit. -/
  | usage
deriving DecidableEq, Repr

/-- The code with which the program ends. -/
def Halt.exitCode : Halt → Nat
  | .help => 0
  | .usage => 2

/-! ## What an argument is for -/

/-- An option that takes a value. -/
inductive Setting where
  | project
  | save
  | logLevel
deriving DecidableEq, Repr

/-- What an argument is taken for. -/
inductive Role where
  /-- It is no option. -/
  | plain
  /-- It starts with a hyphen and names nothing. -/
  | unknown
  /-- A request for help, or one that is not formed well. -/
  | help (wellFormed : Bool)
  /-- An option, with the value that stands in the same argument. -/
  | setting (setting : Setting) (value : Option String)
  /-- An option that is cut too short. -/
  | ambiguous
deriving DecidableEq, Repr

/-- What a long option stands for; help has no setting. -/
abbrev LongOption := String × Option Setting

/-- The long options of the program itself. -/
def topOptions : List LongOption := [("--help", none)]

/-- The long options of a task. -/
def taskOptions : List LongOption :=
  topOptions ++ [("--project", some .project), ("--save", some .save),
    ("--log-level", some .logLevel)]

/-- What follows `-h` in the same argument asks for help only once more, letter by letter. After `=`
there has to be something. -/
def helpTail : List Char → Bool
  | '=' :: cs => !cs.isEmpty && cs.all (· == 'h')
  | cs => cs.all (· == 'h')

/-- A number below zero, which is no option. -/
def isNegativeNumber (arg : List Char) : Bool :=
  let isDigit (c : Char) : Bool := (Text.digitValue? c).isSome
  let number := if arg.getLast? == some '\n' then arg.dropLast else arg
  match number with
  | '-' :: cs =>
    match cs.dropWhile isDigit with
    | [] => !cs.isEmpty
    | '.' :: fraction => !fraction.isEmpty && fraction.all isDigit
    | _ => false
  | _ => false

/-- The role of a long option that is given as `name`, perhaps cut short, with a value if there is
one; nothing if it names none of the options. -/
def longRole? (options : List LongOption) (name : String) (value : Option String) : Option Role :=
  let make : LongOption → Role
    | (_, none) => .help value.isNone
    | (_, some setting) => .setting setting value
  match options.find? (·.1 = name) with
  | some option => some (make option)
  | none =>
    match options.filter fun option => Text.startsWith option.1 name with
    | [] => none
    | [option] => some (make option)
    | _ => some .ambiguous

/-- The role of an argument. -/
def role (options : List LongOption) (arg : String) : Role :=
  let named : Option Role := match arg.toList with
    | '-' :: '-' :: _ =>
      let (name, value) := Text.partition '=' arg
      longRole? options name value
    | '-' :: 'h' :: cs => some (.help (helpTail cs))
    | _ => none
  match named with
  | some role => role
  | none =>
    match arg.toList with
    | '-' :: _ :: _ =>
      if isNegativeNumber arg.toList || arg.toList.contains ' ' then .plain else .unknown
    | _ => .plain

/-! ## Taking arguments -/

/-- Everything up to `--`, each with its role, and what follows it if it is there. -/
def rolesOf (options : List LongOption) : List String → List (String × Role) × Option (List String)
  | [] => ([], none)
  | arg :: args =>
    if arg = "--" then ([], some args)
    else
      let (roles, rest) := rolesOf options args
      ((arg, role options arg) :: roles, rest)

/-- What has been taken so far. -/
structure Taken where
  options : Options
  /-- The line of the task `exec`, once it has been taken. -/
  line : Option String
  /-- A line is still to be taken. -/
  wantsLine : Bool
  /-- The last argument that was taken is the line. -/
  justTookLine : Bool
  /-- Some argument had no place. -/
  extra : Bool

/-- A path without what does not matter in it: empty segments and `.`. Two slashes in front are not
the same as one, but three are. -/
def tidyPath (path : String) : String :=
  let root :=
    if Text.startsWith path "//" && !Text.startsWith path "///" then "//"
    else if Text.startsWith path "/" then "/"
    else ""
  let segments := (Text.split '/' path).filter fun segment => segment ≠ "" && segment ≠ "."
  let tidy := root ++ "/".intercalate segments
  if tidy = "" then "." else tidy

/-- What a file option has when its value is the given one. -/
def FileValue.ofText (value : String) : FileValue :=
  if value = "--" then .dropped else .path (tidyPath value)

/-- Sets the value of an option. -/
def Options.set (options : Options) (setting : Setting) (value : String) : Options :=
  match setting with
  | .project => { options with project := some (.ofText value) }
  | .save => { options with save := some (.ofText value) }
  | .logLevel => { options with logLevel := if value = "--" then none else some value }

/-- Takes an argument that is no option. -/
def Taken.plain (taken : Taken) (arg : String) : Taken :=
  if taken.wantsLine then
    { taken with line := some arg, wantsLine := false, justTookLine := true }
  else { taken with extra := true, justTookLine := false }

/-- Takes arguments by their roles. -/
def takeAll (taken : Taken) : List (String × Role) → Except Halt Taken
  | [] => .ok taken
  | (arg, .plain) :: rest => takeAll (taken.plain arg) rest
  | (_, .unknown) :: rest => takeAll { taken with extra := true, justTookLine := false } rest
  | (_, .help wellFormed) :: _ => .error (if wellFormed then .help else .usage)
  | (_, .ambiguous) :: _ => .error .usage
  | (_, .setting setting (some value)) :: rest =>
    takeAll { taken with options := taken.options.set setting value, justTookLine := false } rest
  | (_, .setting setting none) :: (value, .plain) :: rest =>
    takeAll { taken with options := taken.options.set setting value, justTookLine := false } rest
  | (_, .setting _ none) :: _ => .error .usage

/-- Takes what follows `--`. The mark itself has a place only next to the line. -/
def Taken.verbatim (taken : Taken) : Option (List String) → Taken
  | none => taken
  | some [] => if taken.justTookLine then taken else { taken with extra := true }
  | some (arg :: args) =>
    if taken.wantsLine then
      { taken with line := some arg, wantsLine := false, extra := taken.extra || !args.isEmpty }
    else { taken with extra := true }

/-- Takes the arguments of a task. -/
def takeTask (wantsLine : Bool) (args : List String) : Except Halt Taken :=
  let (roles, rest) := rolesOf taskOptions args
  if roles.any (·.2 = .ambiguous) then .error .usage
  else
    (takeAll ⟨⟨none, none, none⟩, none, wantsLine, false, false⟩ roles).map
      (·.verbatim rest)

/-- The request of a task, unless some argument is missing or has no place. -/
def requestOf (extra : Bool) (taken : Taken) : Except Halt Request :=
  if taken.wantsLine || taken.extra || extra then .error .usage
  else match taken.line with
    | some line => .ok ⟨.exec line, taken.options⟩
    | none => .ok ⟨.shell, taken.options⟩

/-- What the arguments ask for, if some argument before had no place or none. -/
def requestFrom (extra : Bool) : List String → Except Halt Request
  | [] => .error .usage
  | "--" :: _ => .error .usage
  | arg :: args =>
    match role topOptions arg with
    | .plain =>
      match arg with
      | "exec" => (takeTask true args).bind (requestOf extra)
      | "shell" => (takeTask false args).bind (requestOf extra)
      | _ => .error .usage
    | .help wellFormed => .error (if wellFormed then .help else .usage)
    | _ => requestFrom true args

/-- What the arguments of the program ask for. -/
def request (args : List String) : Except Halt Request := requestFrom false args

end Invocation
end EditorShell

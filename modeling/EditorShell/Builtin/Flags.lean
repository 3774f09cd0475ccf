import EditorShell.Text.Basic

/-!
# Flags

Arguments that start with a hyphen are flags: `--word` is one flag, `-abc` three. A lone hyphen and
a lone `--` of two characters are taken by the same rule: the first is an operand, the second the
flag `-`.
-/

namespace EditorShell
namespace Builtin

/-- The flags that an argument gives, if it is no operand. -/
def flagsOf? (arg : String) : Option (List String) :=
  match arg.toList with
  | '-' :: '-' :: c :: cs => some [String.ofList (c :: cs)]
  | '-' :: c :: cs => some ((c :: cs).map fun c => String.ofList [c])
  | _ => none

/-- All flags of the arguments. -/
def flags (args : List String) : List String := args.flatMap fun arg => (flagsOf? arg).getD []

/-- The arguments that are no flags. -/
def operands (args : List String) : List String := args.filter fun arg => (flagsOf? arg).isNone

/-- The arguments that do not start with a hyphen. -/
def withoutHyphen (args : List String) : List String :=
  args.filter (!Text.startsWith · "-")

end Builtin
end EditorShell

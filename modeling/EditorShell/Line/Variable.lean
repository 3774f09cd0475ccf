import EditorShell.Line.Word

/-!
# Variable references

In a word `$NAME` and `${NAME}` stand for the value of a variable, or for nothing if it has none. A
name is an ASCII identifier, and a bare reference takes as many characters as it can. A dollar sign
that starts no reference stands for itself. Values are inserted as they are: the text is read once,
from left to right, and what a value holds is never read again.
-/

namespace EditorShell
namespace Variable

/-- A character that a name may start with. -/
def isNameStart (c : Char) : Bool := c.isAlpha || c == '_'

/-- A character that a name may hold. -/
def isNameChar (c : Char) : Bool := c.isAlphanum || c == '_'

/-- The characters form a name. -/
def isName : List Char → Bool
  | [] => false
  | c :: cs => isNameStart c && cs.all isNameChar

/-- The name of a reference and what follows it, read after the dollar sign. -/
def reference? : List Char → Option (List Char × List Char)
  | [] => none
  | c :: cs =>
    if c = '\x7b' then
      match cs.dropWhile isNameChar with
      | '\x7d' :: rest =>
        if isName (cs.takeWhile isNameChar) then some (cs.takeWhile isNameChar, rest) else none
      | _ => none
    else if isNameStart c then some (c :: cs.takeWhile isNameChar, cs.dropWhile isNameChar)
    else none

theorem length_of_reference? {cs name rest : List Char}
    (h : reference? cs = some (name, rest)) : rest.length < cs.length := by
  cases cs with
  | nil => simp [reference?] at h
  | cons c cs =>
    have hdrop := (List.dropWhile_sublist isNameChar (l := cs)).length_le
    rw [reference?] at h
    split at h
    · split at h
      next r hr =>
        split at h
        · obtain ⟨_, rfl⟩ := Prod.mk.inj (Option.some.inj h)
          rw [hr] at hdrop
          simp only [List.length_cons] at hdrop ⊢
          omega
        · simp at h
      · simp at h
    · split at h
      · obtain ⟨_, rfl⟩ := Prod.mk.inj (Option.some.inj h)
        simp only [List.length_cons]
        omega
      · cases h

/-- The characters with every reference replaced by the value that `value` gives for its name. -/
def substitute (value : List Char → List Char) : List Char → List Char
  | [] => []
  | c :: cs =>
    if c = '$' then
      match _h : reference? cs with
      | some (name, rest) => value name ++ substitute value rest
      | none => '$' :: substitute value cs
    else c :: substitute value cs
termination_by cs => cs.length
decreasing_by
  · have := length_of_reference? _h; simp; omega
  · simp
  · simp

/-- The value of a variable, empty if it has none. -/
def value (environment : Table String) (name : List Char) : List Char :=
  (environment.getD (String.ofList name) "").toList

/-- The text with its references replaced by values. -/
def expand (environment : Table String) (text : String) : String :=
  String.ofList (substitute (value environment) text.toList)

end Variable

/-- The word with its references replaced; operators are left alone. -/
def Word.expand (environment : Table String) : Word → Word
  | .plain text => .plain (Variable.expand environment text)
  | .operator append => .operator append

end EditorShell

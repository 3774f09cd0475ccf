import EditorShell.Binary64.Shortest
import EditorShell.Table
import EditorShell.Text.Quoted

/-!
# JSON values

Numbers without fraction and exponent are whole numbers of any size, all others belong to the
64-bit binary format; not-a-number and the infinities are values too. The members of an object keep
their order. Texts and keys are strings, or lists of symbols where lone units have to be kept.
-/

namespace EditorShell

/-- A JSON value with texts of type `τ`. -/
inductive Json (τ : Type := String) where
  | null
  | bool (b : Bool)
  | int (n : Int)
  | real (x : Binary64)
  | string (s : τ)
  | array (elements : List (Json τ))
  | object (members : List (τ × Json τ))
deriving Repr, Inhabited

namespace Json

variable {τ : Type}

/-- The member of an object under `key`. -/
def get? [BEq τ] (key : τ) : Json τ → Option (Json τ)
  | .object members => members.lookup key
  | _ => none

/-- The text, if the value is one. -/
def string? : Json τ → Option τ
  | .string s => some s
  | _ => none

/-- The members, if the value is an object. -/
def members? : Json τ → Option (List (τ × Json τ))
  | .object members => some members
  | _ => none

/-! ## Display in messages

Values that are no texts are shown in a notation of its own: `None`, `True` and `False`, quoted
texts, lists in brackets and objects in braces. -/

mutual

/-- The display of a value inside another one. -/
def display : Json (List Text.Symbol) → String
  | .null => "None"
  | .bool b => if b then "True" else "False"
  | .int n => toString n
  | .real x => x.toText
  | .string s => Text.quotedSymbols s
  | .array elements => "[" ++ ", ".intercalate (displayElements elements) ++ "]"
  | .object members => "\x7b" ++ ", ".intercalate (displayMembers members) ++ "\x7d"

/-- The displays of the elements of a list. -/
def displayElements : List (Json (List Text.Symbol)) → List String
  | [] => []
  | v :: vs => display v :: displayElements vs

/-- The displays of the members of an object. -/
def displayMembers : List (List Text.Symbol × Json (List Text.Symbol)) → List String
  | [] => []
  | (key, v) :: members => (Text.quotedSymbols key ++ ": " ++ display v) :: displayMembers members

end

/-- The value as text: a text is itself, anything else is displayed. -/
def plain : Json (List Text.Symbol) → String
  | .string s => Text.replacedText s
  | v => display v

end Json
end EditorShell

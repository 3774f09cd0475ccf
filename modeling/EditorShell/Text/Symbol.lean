import EditorShell.Text.Basic

/-!
# Texts with lone units

Escapes write a text in 16-bit units, two of them for a character beyond U+FFFF. A unit of such a
pair can also stand alone, and then it is no character. A symbol is a character or a lone unit, so a
list of symbols is a text in which lone units are kept apart; `text?` gives the text, if there are
none.
-/

namespace EditorShell
namespace Text

/-- A character, or a 16-bit unit without its partner. -/
inductive Symbol where
  | char (c : Char)
  | lone (unit : Nat)
deriving DecidableEq, Repr, Inhabited

namespace Symbol

/-- The first unit of a pair. -/
def isHighUnit (n : Nat) : Bool := 0xD800 ≤ n && n < 0xDC00

/-- The second unit of a pair. -/
def isLowUnit (n : Nat) : Bool := 0xDC00 ≤ n && n < 0xE000

/-- The character that a pair of units stands for. -/
def ofPair (high low : Nat) : Symbol :=
  .char (Char.ofNat (0x10000 + (high - 0xD800) * 0x400 + (low - 0xDC00)))

/-- A code point, or a unit that stands alone. -/
def ofUnit (n : Nat) : Symbol :=
  if isHighUnit n || isLowUnit n then .lone n else .char (Char.ofNat n)

/-- The symbols that code points and units make up: a first unit goes with a second one right after
it. -/
def ofUnits : List Nat → List Symbol
  | [] => []
  | [n] => [ofUnit n]
  | n :: m :: ns =>
    if isHighUnit n && isLowUnit m then ofPair n m :: ofUnits ns
    else ofUnit n :: ofUnits (m :: ns)

/-- No code point of a character is a unit of a pair. -/
theorem isUnit_toNat (c : Char) : isHighUnit c.toNat = false ∧ isLowUnit c.toNat = false := by
  have h : c.toNat < 0xD800 ∨ 0xDFFF < c.toNat ∧ c.toNat < 0x110000 := c.valid
  simp only [isHighUnit, isLowUnit, Bool.and_eq_false_iff, decide_eq_false_iff_not]
  omega

theorem ofUnit_toNat (c : Char) : ofUnit c.toNat = .char c := by
  obtain ⟨hhigh, hlow⟩ := isUnit_toNat c
  simp [ofUnit, hhigh, hlow, Char.ofNat_toNat]

/-- The code points of characters make up these characters. -/
theorem ofUnits_toNat (cs : List Char) : ofUnits (cs.map Char.toNat) = cs.map Symbol.char := by
  induction cs with
  | nil => rfl
  | cons c cs ih =>
    cases cs with
    | nil => simp [ofUnits, ofUnit_toNat]
    | cons d ds =>
      simp only [List.map_cons] at ih ⊢
      simp [ofUnits, (isUnit_toNat c).1, ofUnit_toNat, ih]

/-- The character, if the symbol is one. -/
def char? : Symbol → Option Char
  | .char c => some c
  | .lone _ => none

/-- The place of the symbol in the order of code points. -/
def code : Symbol → Nat
  | .char c => c.toNat
  | .lone unit => unit

/-- The symbol as a character: a lone unit becomes the replacement character. -/
def replaced (s : Symbol) : Char := s.char?.getD '\uFFFD'

end Symbol

/-- The characters of a text as symbols. -/
def symbols (s : String) : List Symbol := s.toList.map .char

/-- The text that symbols make up, if none of them is a lone unit. -/
def text? (ss : List Symbol) : Option String := (ss.mapM Symbol.char?).map String.ofList

/-- The text that symbols make up, with the replacement character for lone units. -/
def replacedText (ss : List Symbol) : String := String.ofList (ss.map Symbol.replaced)

theorem mapM_char?_symbols (s : String) : (symbols s).mapM Symbol.char? = some s.toList := by
  unfold symbols
  induction s.toList with
  | nil => rfl
  | cons c cs ih => rw [List.map_cons, List.mapM_cons, ih]; rfl

/-- The symbols of a text make it up again. -/
@[simp] theorem text?_symbols (s : String) : text? (symbols s) = some s := by
  simp [text?, mapM_char?_symbols]

/-- Symbols in the order of their code points, position by position. -/
def codesLE : List Symbol → List Symbol → Bool
  | [], _ => true
  | _ :: _, [] => false
  | s :: ss, t :: ts => s.code < t.code || (s.code == t.code && codesLE ss ts)

end Text
end EditorShell

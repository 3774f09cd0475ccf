import EditorShell.Json
import EditorShell.Text.Digits

/-!
# The tokens of a JSON text

A text is first cut into tokens: brackets, braces, commas and colons, quoted texts, and atoms, which
are the maximal runs of the characters that numbers and words are made of. Blanks between tokens are
dropped. What is no token ends the cutting, and it is up to the reader whether it gets that far.

Readers differ in three points: an escape `\u` gives a 16-bit unit, and a unit need not have a
partner; a number may have too many digits; and lists and objects may be nested too deeply.
-/

namespace EditorShell
namespace Json

/-- The pieces of a JSON text. -/
inductive Token (τ : Type) where
  | arrayOpen | arrayClose | objectOpen | objectClose | comma | colon
  | text (s : τ)
  /-- A word or a number. -/
  | atom (v : Json τ)
  /-- A number that has too many digits. -/
  | oversized (digits : Nat)
  /-- Something that is no token. -/
  | stray
deriving Repr, Inhabited

/-- Which numbers have too many digits. The limit is the one for numbers in texts. -/
inductive NumberLimit where
  /-- A whole number, by its digits. -/
  | wholeNumbers
  /-- Any number, by its sign and its digits before a point or an exponent. -/
  | allNumbers
deriving DecidableEq, Repr

/-- The points in which readers differ. -/
structure Rules (τ : Type) where
  /-- The text that code points and units make up, unless it is refused. -/
  text? : List Nat → Option τ
  numbers : NumberLimit
  /-- How deep lists and objects with something in them may be nested, if there is a bound. -/
  depth? : Option Nat

/-- Lone units are refused, numbers are limited, and 200 levels may be nested. -/
def Rules.strict : Rules String :=
  ⟨fun ns => Text.text? (Text.Symbol.ofUnits ns), .allNumbers, some 200⟩

/-- Lone units are kept, and whole numbers are limited. -/
def Rules.keeping : Rules (List Text.Symbol) :=
  ⟨fun ns => some (Text.Symbol.ofUnits ns), .wholeNumbers, none⟩

/-- Lone units are replaced, and whole numbers are limited. -/
def Rules.replacing : Rules String :=
  ⟨fun ns => some (Text.replacedText (Text.Symbol.ofUnits ns)), .wholeNumbers, none⟩

/-! ## Quoted texts -/

/-- The value of four hexadecimal digits. -/
def unit? (a b c d : Char) : Option Nat := do
  let a ← Text.hexValue? a
  let b ← Text.hexValue? b
  let c ← Text.hexValue? c
  let d ← Text.hexValue? d
  some (4096 * a + 256 * b + 16 * c + d)

/-- The character for the letter of a short escape. -/
def unescape? : Char → Option Char
  | '"' => some '"'
  | '\\' => some '\\'
  | '/' => some '/'
  | 'b' => some '\x08'
  | 'f' => some '\x0c'
  | 'n' => some '\n'
  | 'r' => some '\r'
  | 't' => some '\t'
  | _ => none

/-- The code points and units of a quoted text, read after the opening quote, and what follows the
closing one. -/
def units? : List Char → Option (List Nat × List Char)
  | [] => none
  | '"' :: cs => some ([], cs)
  | '\\' :: 'u' :: a :: b :: c :: d :: cs => do
    let n ← unit? a b c d
    let (ns, rest) ← units? cs
    some (n :: ns, rest)
  | '\\' :: e :: cs => do
    let c ← unescape? e
    let (ns, rest) ← units? cs
    some (c.toNat :: ns, rest)
  | c :: cs =>
    if c.toNat < 0x20 then none
    else do
      let (ns, rest) ← units? cs
      some (c.toNat :: ns, rest)

theorem length_of_units? {cs rest : List Char} {ns : List Nat} (h : units? cs = some (ns, rest)) :
    rest.length < cs.length := by
  fun_induction units? cs generalizing ns with
  | case1 => simp at h
  | case2 cs => simp_all
  | case3 a b c d cs ih =>
    simp only [Option.bind_eq_bind, Option.bind_eq_some_iff] at h
    obtain ⟨_, _, ⟨ms, r⟩, hr, heq⟩ := h
    obtain ⟨_, rfl⟩ := Prod.mk.inj (Option.some.inj heq)
    have : r.length < cs.length := ih hr
    simp only [List.length_cons]; omega
  | case4 e cs _ ih =>
    simp only [Option.bind_eq_bind, Option.bind_eq_some_iff] at h
    obtain ⟨_, _, ⟨ms, r⟩, hr, heq⟩ := h
    obtain ⟨_, rfl⟩ := Prod.mk.inj (Option.some.inj heq)
    have : r.length < cs.length := ih hr
    simp only [List.length_cons]; omega
  | case5 => simp at h
  | case6 c cs _ _ _ _ ih =>
    simp only [Option.bind_eq_bind, Option.bind_eq_some_iff] at h
    obtain ⟨⟨ms, r⟩, hr, heq⟩ := h
    obtain ⟨_, rfl⟩ := Prod.mk.inj (Option.some.inj heq)
    have : r.length < cs.length := ih hr
    simp only [List.length_cons]; omega

/-! ## Numbers and words -/

/-- A character of numbers and words. -/
def isAtomChar (c : Char) : Bool := c.isAlphanum || c == '-' || c == '+' || c == '.'

/-- The exponent of a number, read after its letter. -/
def exponent? (cs : List Char) : Option Int :=
  let (negative, digits) := match cs with
    | '-' :: cs => (true, cs)
    | '+' :: cs => (false, cs)
    | cs => (false, cs)
  if digits.isEmpty || !digits.all Char.isDigit then none
  else some (if negative then -(Text.decimalValue digits) else Text.decimalValue digits)

/-- A number without its sign: no needless zero in front, and at least one digit after the point
and after the exponent letter if these are there. -/
def magnitude? {τ : Type} (negative : Bool) (cs : List Char) : Option (Json τ) :=
  let whole := cs.takeWhile Char.isDigit
  let rest := cs.dropWhile Char.isDigit
  if whole.isEmpty || (whole.head? == some '0' && whole != ['0']) then none
  else if rest.isEmpty then
    some (.int (if negative then -(Text.decimalValue whole) else Text.decimalValue whole))
  else
    let (fraction, rest, pointed) := match rest with
      | '.' :: cs => (cs.takeWhile Char.isDigit, cs.dropWhile Char.isDigit, true)
      | cs => ([], cs, false)
    if pointed && fraction.isEmpty then none
    else
      let exponent := match rest with
        | [] => some 0
        | c :: cs => if c = 'e' || c = 'E' then exponent? cs else none
      let digits := Text.decimalValue (whole ++ fraction)
      exponent.map fun e => .real (Binary64.ofDecimal negative digits (e - fraction.length))

/-- The value that an atom stands for. -/
def atom? {τ : Type} (cs : List Char) : Option (Json τ) :=
  match String.ofList cs with
  | "null" => some .null
  | "true" => some (.bool true)
  | "false" => some (.bool false)
  | "NaN" => some (.real .nan)
  | "Infinity" => some (.real (.infinite false))
  | "-Infinity" => some (.real (.infinite true))
  | _ =>
    match cs with
    | '-' :: cs => magnitude? true cs
    | cs => magnitude? false cs

/-- What stands after the whole digits of a number is a fraction or an exponent. -/
def hasFraction : List Char → Bool
  | '.' :: c :: _ => c.isDigit
  | e :: cs =>
    (e == 'e' || e == 'E') &&
      match cs with
      | '+' :: c :: _ => c.isDigit
      | '-' :: c :: _ => c.isDigit
      | c :: _ => c.isDigit
      | [] => false
  | [] => false

/-- The count of the digits with which an atom begins, if they are too many. -/
def NumberLimit.excess? (limit : NumberLimit) (cs : List Char) : Option Nat :=
  let (sign, cs) := match cs with
    | '-' :: cs => (1, cs)
    | cs => (0, cs)
  let digits := cs.takeWhile Char.isDigit
  let (size, limited) := match limit with
    | .wholeNumbers => (digits.length, !hasFraction (cs.dropWhile Char.isDigit))
    | .allNumbers => (sign + digits.length, true)
  if limited && Text.longestNumber < size && digits.head? != some '0' then some size else none

/-- The token for an atom. -/
def Token.ofAtom {τ : Type} (limit : NumberLimit) (cs : List Char) : Token τ :=
  match limit.excess? cs with
  | some digits => .oversized digits
  | none => ((atom? cs).map .atom).getD .stray

/-! ## Cutting -/

/-- A blank that may stand between tokens. -/
def isSpace (c : Char) : Bool := c == ' ' || c == '\t' || c == '\n' || c == '\r'

/-- A token of a single character. -/
def mark? {τ : Type} : Char → Option (Token τ)
  | '[' => some .arrayOpen
  | ']' => some .arrayClose
  | '\x7b' => some .objectOpen
  | '\x7d' => some .objectClose
  | ',' => some .comma
  | ':' => some .colon
  | _ => none

/-- The tokens of a text, up to what is no token. -/
def tokens {τ : Type} (rules : Rules τ) : List Char → List (Token τ)
  | [] => []
  | c :: cs =>
    if isSpace c then tokens rules cs
    else match mark? c with
      | some token => token :: tokens rules cs
      | none =>
        if c = '"' then
          match _h : units? cs with
          | none => [.stray]
          | some (ns, rest) =>
            match rules.text? ns with
            | none => [.stray]
            | some s => .text s :: tokens rules rest
        else if isAtomChar c then
          Token.ofAtom rules.numbers (c :: cs.takeWhile isAtomChar) ::
            tokens rules (cs.dropWhile isAtomChar)
        else [.stray]
termination_by cs => cs.length
decreasing_by
  · simp
  · simp
  · have := length_of_units? _h; simp; omega
  · have := (List.dropWhile_sublist isAtomChar (l := cs)).length_le; simp; omega

end Json
end EditorShell

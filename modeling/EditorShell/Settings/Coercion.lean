import EditorShell.Json
import EditorShell.Text.Digits
import EditorShell.Validation

/-!
# Reading the value of a setting

Settings come as JSON values or, from environment variables, as texts. A number may be given as a
text, a whole number also as a truth value or as a number without fraction; a text must be a text.
-/

namespace EditorShell
namespace Settings

/-- The value of decimal digits. -/
def digits? (cs : List Char) : Option Nat :=
  if cs.isEmpty || !cs.all Char.isDigit then none
  else some (Text.decimalValue cs)

/-- Two underscores stand side by side. -/
def hasDoubleUnderscore : List Char → Bool
  | '_' :: '_' :: _ => true
  | _ :: cs => hasDoubleUnderscore cs
  | [] => false

/-- The text without underscores, provided that it has some and that they stand singly and inside
it. -/
def dropUnderscores? (cs : List Char) : Option (List Char) :=
  if cs.head? == some '_' || cs.getLast? == some '_' || !cs.contains '_' || hasDoubleUnderscore cs
  then none
  else some (cs.filter (· != '_'))

/-! ## Whole numbers -/

/-- The whole number that plain digits write, perhaps after a minus sign, without zeros in front. A
text that begins with too many digits is oversized, whatever follows them; a minus sign counts as
one of them. -/
def plainInteger (cs : List Char) : Except Fault Int :=
  let (sign, digits) := match cs with
    | '-' :: digits => (['-'], digits)
    | digits => ([], digits)
  let run := digits.takeWhile Char.isDigit
  if digits == ['0'] then .ok 0
  else if run.isEmpty || run.head? == some '0' then .error .unreadableInteger
  else if Text.longestNumber < sign.length + run.length then .error .oversizedInteger
  else if run.length < digits.length then .error .unreadableInteger
  else
    let n : Int := Text.decimalValue run
    .ok (if sign.isEmpty then n else -n)

/-- The number without zeros in front, except for one that is needed. Underscores may stand among
them, and a minus sign after them. -/
def dropLeadingZeros? (cs : List Char) : Option (List Char) :=
  match cs with
  | '0' :: rest =>
    let zeros := rest.takeWhile fun c => c == '0' || c == '_'
    match rest.dropWhile fun c => c == '0' || c == '_' with
    | [] => some [zeros.getLast?.getD '0']
    | '.' :: after => some (zeros.getLast?.getD '0' :: '.' :: after)
    | c :: after => if ('1' ≤ c && c ≤ '9') || c == '-' then some (c :: after) else none
  | c :: _ => if '1' ≤ c && c ≤ '9' then some cs else none
  | [] => none

/-- The number without a point that only zeros, and at least one, follow. -/
def dropDecimalZeros (cs : List Char) : List Char :=
  match Text.cutFirst '.' cs with
  | (whole, some zeros) => if !zeros.isEmpty && zeros.all (· == '0') then whole else cs
  | (_, none) => cs

/-- The digits of a whole number without what may be written besides them. -/
def plainDigits? (cs : List Char) : Option (List Char) :=
  (dropLeadingZeros? cs).map fun cs =>
    let cs := dropDecimalZeros cs
    (dropUnderscores? cs).getD cs

/-- The plain form of a text for a whole number, which may have blanks around it and a sign. -/
def plainForm? (s : String) : Option (List Char) :=
  match (Text.trimBoth Text.isNumberBlank s).toList with
  | '+' :: cs => if cs.head? == some '-' then none else plainDigits? cs
  | '-' :: cs => (plainDigits? cs).map ('-' :: ·)
  | cs => plainDigits? cs

/-- The whole number that a text writes. It is oversized only if the text as it stands begins with
too many digits; too many in the plain form make it unreadable. -/
def readInteger (s : String) : Checked Int :=
  match plainInteger s.toList with
  | .ok n => .ok n
  | .error .oversizedInteger => .fail .oversizedInteger
  | .error _ =>
    match plainForm? s with
    | none => .fail .unreadableInteger
    | some cs =>
      match plainInteger cs with
      | .ok n => .ok n
      | .error _ => .fail .unreadableInteger

/-- The bound of the numbers without fraction that can stand for a whole number. -/
def wholeBound : Int := Int.ofNat (Nat.pow 2 63)

/-- A whole number. -/
def integer : Json → Checked Int
  | .bool b => .ok (if b then 1 else 0)
  | .int n => .ok n
  | .string s => readInteger s
  | .real .nan => .fail .notFinite
  | .real (.infinite _) => .fail .notFinite
  | .real x =>
    match x.toInt? with
    | none => .fail .fractionalInteger
    | some n =>
      if -wholeBound < n && n < wholeBound then .ok n else .fail .oversizedInteger
  | _ => .fail .notInteger

/-- A whole number that is at least one. -/
def positive (v : Json) : Checked Nat :=
  match integer v with
  | .error findings => .error findings
  | .ok n => if n < 1 then .fail .tooSmall else .ok n.toNat

/-! ## Other values -/

/-- Digits with a point somewhere and perhaps an exponent; at least one digit besides it. -/
def decimal? (negative : Bool) (cs : List Char) : Option Binary64 :=
  let whole := cs.takeWhile Char.isDigit
  let (fraction, rest) := match cs.dropWhile Char.isDigit with
    | '.' :: cs => (cs.takeWhile Char.isDigit, cs.dropWhile Char.isDigit)
    | cs => ([], cs)
  let exponent? : Option Int := match rest with
    | [] => some 0
    | e :: cs =>
      if e != 'e' && e != 'E' then none
      else match cs with
        | '-' :: cs => (digits? cs).map fun n => -(n : Int)
        | '+' :: cs => (digits? cs).map fun n => (n : Int)
        | cs => (digits? cs).map fun n => (n : Int)
  do
    let digits ← digits? (whole ++ fraction)
    let exponent ← exponent?
    return Binary64.ofDecimal negative digits (exponent - fraction.length)

/-- The number that a text without blanks writes: a decimal number, an infinity, or no number. -/
def plainNumber? (cs : List Char) : Option Binary64 :=
  let (negative, cs) := match cs with
    | '-' :: cs => (true, cs)
    | '+' :: cs => (false, cs)
    | cs => (false, cs)
  match String.ofList (cs.map Char.toLower) with
  | "inf" => some (.infinite negative)
  | "infinity" => some (.infinite negative)
  | "nan" => some .nan
  | _ => decimal? negative cs

/-- The number that a text writes. It may have blanks around it or underscores inside it, but not
both. -/
def readNumber? (s : String) : Option Binary64 :=
  (plainNumber? (Text.trimBoth Text.isNumberBlank s).toList).or
    ((dropUnderscores? s.toList).bind plainNumber?)

/-- A number. -/
def number : Json → Checked Binary64
  | .bool b => .ok (.ofInt (if b then 1 else 0))
  | .int n =>
    match Binary64.ofInt n with
    | .infinite _ => .fail .notNumber
    | x => .ok x
  | .real x => .ok x
  | .string s =>
    match readNumber? s with
    | some x => .ok x
    | none => .fail .unreadableNumber
  | _ => .fail .notNumber

/-- A number that is zero or above. -/
def nonNegative (v : Json) : Checked Binary64 :=
  match number v with
  | .error findings => .error findings
  | .ok x => if x == .nan || x.isNegative then .fail .tooSmall else .ok x

/-- A text. -/
def text : Json → Checked String
  | .string s => .ok s
  | _ => .fail .notString

/-- The texts of a list from position `i` on, each once. -/
def texts (i : Nat) : List Json → Checked (List String)
  | [] => .ok []
  | v :: vs =>
    (Checked.both (Checked.under (.index i) (text v)) (texts (i + 1) vs)).map
      fun (s, rest) => rest.insert s

/-- A set of texts, given as a list. -/
def textSet : Json → Checked (List String)
  | .array elements => texts 0 elements
  | _ => .fail .notSet

end Settings
end EditorShell

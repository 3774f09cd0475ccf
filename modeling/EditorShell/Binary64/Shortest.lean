import EditorShell.Binary64

/-!
# Shortest decimal texts

A number of the binary format is written with the fewest decimal digits that read back as the same
number, and with the nearest of these to it. For one digit, two digits and so on, only the two
neighbours of the number on that decimal grid can read back, so these are tried; seventeen digits
always suffice.
-/

namespace EditorShell
namespace Binary64

/-- A positive fraction with the bounds of the reals that round to it, over one denominator. -/
structure Interval where
  low : Nat
  value : Nat
  high : Nat
  denominator : Nat
  /-- The bounds themselves round to the value. -/
  closed : Bool

/-- The reals that round to `mantissa` · 2 ^ `exponent`. Below a power of two numbers are closer. -/
def interval (mantissa : Nat) (exponent : Int) : Interval :=
  let below := if mantissa = Nat.pow 2 52 && minExponent < exponent then 1 else 2
  let (low, denominator) := scale 2 (4 * mantissa - below) (exponent - 2)
  let (value, _) := scale 2 (4 * mantissa) (exponent - 2)
  let (high, _) := scale 2 (4 * mantissa + 2) (exponent - 2)
  ⟨low, value, high, denominator, mantissa % 2 == 0⟩

/-- `digits` · 10 ^ `exponent` rounds to the value. -/
def Interval.holds (i : Interval) (digits : Nat) (exponent : Int) : Bool :=
  let (n, d) := scale 10 digits exponent
  let x := n * i.denominator
  if i.closed then i.low * d ≤ x && x ≤ i.high * d else i.low * d < x && x < i.high * d

/-- The exponent `k` with 10 ^ (k - 1) ≤ value < 10 ^ k. -/
def Interval.magnitude (i : Interval) : Int :=
  (decimalLength (i.value * Nat.pow 10 400 / i.denominator) : Int) - 400

/-- A neighbour of the value on the grid of 10 ^ `exponent` that rounds to it, the nearer of two. -/
def Interval.neighbour? (i : Interval) (exponent : Int) : Option Nat :=
  let n := i.value * Nat.pow 10 (-exponent).toNat
  let d := i.denominator * Nat.pow 10 exponent.toNat
  let q := n / d
  match i.holds q exponent && q != 0, i.holds (q + 1) exponent with
  | true, true => some (roundDiv n d)
  | true, false => some q
  | false, true => some (q + 1)
  | false, false => none

/-- Drops zeros at the end of the digits, at most `n` of them. -/
def dropZeros : Nat → Nat → Int → Nat × Int
  | 0, digits, exponent => (digits, exponent)
  | n + 1, digits, exponent =>
    if digits % 10 = 0 then dropZeros n (digits / 10) (exponent + 1) else (digits, exponent)

/-- The shortest digits of a positive number and the power of ten of the last one. -/
def shortest (mantissa : Nat) (exponent : Int) : Nat × Int :=
  let i := interval mantissa exponent
  let grids := (List.range 17).map fun n => i.magnitude - (n + 1 : Nat)
  match grids.findSome? fun grid => (i.neighbour? grid).map (·, grid) with
  | some (digits, grid) => dropZeros 20 digits grid
  | none => (mantissa, exponent)

/-- Digits `digits` · 10 ^ `exponent` as text: positional from 10 ^ -4 to below 10 ^ 16, with at
least one digit on either side of the point, and else with an exponent of two digits or more. -/
def layout (digits : Nat) (exponent : Int) : String :=
  let text := toString digits
  let point := (text.length : Int) + exponent
  if -4 < point && point ≤ 16 then
    if point ≤ 0 then "0." ++ String.ofList (List.replicate (-point).toNat '0') ++ text
    else if exponent < 0 then
      String.ofList (text.toList.take point.toNat) ++ "." ++
        String.ofList (text.toList.drop point.toNat)
    else text ++ String.ofList (List.replicate exponent.toNat '0') ++ ".0"
  else
    let lead := String.ofList (text.toList.take 1)
    let rest := String.ofList (text.toList.drop 1)
    let power := point - 1
    let powerText := toString power.natAbs
    (if rest.isEmpty then lead else lead ++ "." ++ rest) ++ (if power < 0 then "e-" else "e+") ++
      (if powerText.length < 2 then "0" ++ powerText else powerText)

/-- The shortest text that reads back as the number. -/
def toText : Binary64 → String
  | .nan => "nan"
  | .infinite negative => if negative then "-inf" else "inf"
  | .finite negative mantissa exponent =>
    let magnitude :=
      if mantissa = 0 then "0.0"
      else
        let (digits, power) := shortest mantissa exponent
        layout digits power
    if negative then "-" ++ magnitude else magnitude

end Binary64
end EditorShell

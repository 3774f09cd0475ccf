import EditorShell.Text.Digits
import EditorShell.Text.Hex

/-!
# Numeric addresses

The forms that may stand in brackets as the host of a URL: eight groups of up to four hexadecimal
digits, where `::` stands for a run of zero groups, the last two groups may be written as four
decimal numbers, and a zone may follow after `%`; or a future form that starts with `v`.
-/

namespace EditorShell
namespace Url

/-- A decimal number from 0 to 255 without needless zeros. -/
def isOctet (cs : List Char) : Bool :=
  !cs.isEmpty && cs.all Char.isDigit && cs.length ≤ 3 && (cs == ['0'] || cs.head? != some '0') &&
    Text.decimalValue cs ≤ 255

/-- Four decimal numbers with points between them. -/
def isDottedAddress (cs : List Char) : Bool :=
  let octets := cs.splitOn '.'
  octets.length == 4 && octets.all isOctet

/-- One to four hexadecimal digits. -/
def isGroup (cs : List Char) : Bool := !cs.isEmpty && cs.length ≤ 4 && cs.all Text.isHexDigit

/-- The groups with a dotted address at the end replaced by the two groups it stands for. -/
def expandDotted? (groups : List (List Char)) : Option (List (List Char)) :=
  match groups.getLast? with
  | some last =>
    if last.contains '.' then
      if isDottedAddress last then some (groups.dropLast ++ [['0'], ['0']]) else none
    else some groups
  | none => some groups

/-- The groups without the empty one in front that belongs to a leading `::`. A lone leading colon
is refused. -/
def dropLeadingColon? : List (List Char) → Option (List (List Char))
  | [] :: [] :: groups => some ([] :: groups)
  | [] :: _ => none
  | groups => some groups

/-- The groups of an address, colons removed: eight of them, or at most seven and one gap. -/
def areGroups (groups : List (List Char)) : Bool :=
  let written := groups.filter (!·.isEmpty)
  written.all isGroup &&
    match groups.length - written.length with
    | 0 => written.length == 8
    | 1 => written.length ≤ 7
    | _ => false

/-- An address of colon-separated groups, perhaps with a zone. -/
def isGroupedAddress (cs : List Char) : Bool :=
  let (address, zone) := Text.cutFirst '%' cs
  let zoneFits := match zone with
    | none => true
    | some zone => !zone.isEmpty && !zone.contains '%'
  let groups := address.splitOn ':'
  zoneFits && 3 ≤ groups.length &&
    match expandDotted? groups with
    | none => false
    | some groups =>
      match (dropLeadingColon? groups).bind fun gs => dropLeadingColon? gs.reverse with
      | none => false
      | some groups => areGroups groups

/-- A form reserved for the future: `v`, hexadecimal digits, a point, and something after it. -/
def isFutureAddress : List Char → Bool
  | 'v' :: cs =>
    !(cs.takeWhile Text.isHexDigit).isEmpty &&
      match cs.dropWhile Text.isHexDigit with
      | '.' :: rest => !rest.isEmpty
      | _ => false
  | _ => false

end Url
end EditorShell

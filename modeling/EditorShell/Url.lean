import EditorShell.Text.Case
import EditorShell.Text.Quoted
import EditorShell.Url.Address

/-!
# URLs as they are typed

`Url.hostAndPath` finds the host and the path in what a user types for a URL. Spaces and control
characters in front are dropped, and so are tabs and line ends anywhere. A scheme is recognised only
if it is a letter followed by letters, digits, `+`, `-` and `.`; what follows `//` up to the next
`/`, `?` or `#` is the authority, and the host is the part of it after the last `@`, in brackets or
before the first colon. Brackets enclose the whole host, and only a numeric address may stand in
them.
-/

namespace EditorShell

/-- Why a URL is refused. -/
inductive UrlError where
  /-- Only one of the two brackets is there, or something stands right beside them. -/
  | misplacedBracket
  /-- The host has the future form, but not quite. -/
  | futureAddress
  /-- The host is an address that takes no brackets. -/
  | dottedAddress
  | notAnAddress (host : String)
  /-- A character of the authority is a compatibility form of one that ends it. -/
  | compatibilityForm (authority : String)
deriving DecidableEq, Repr

/-- The refusal in words. -/
def UrlError.message : UrlError → String
  | .misplacedBracket => "Invalid IPv6 URL"
  | .futureAddress => "IPvFuture address is invalid"
  | .dottedAddress => "An IPv4 address cannot be in brackets"
  | .notAnAddress host => Text.quoted host ++ " does not appear to be an IPv4 or IPv6 address"
  | .compatibilityForm authority =>
    "netloc '" ++ authority ++ "' contains invalid characters under NFKC normalization"

namespace Url

/-- A character that a scheme may hold. -/
def isSchemeChar (c : Char) : Bool := c.isAlphanum || c == '+' || c == '-' || c == '.'

/-- What follows the scheme, or everything if there is none. -/
def afterScheme (cs : List Char) : List Char :=
  match Text.cutFirst ':' cs with
  | (scheme, some rest) =>
    match scheme with
    | c :: _ => if c.isAlpha && scheme.all isSchemeChar then rest else cs
    | [] => cs
  | (_, none) => cs

/-- A character that ends the authority. -/
def endsAuthority (c : Char) : Bool := c == '/' || c == '?' || c == '#'

/-- The characters whose compatibility form holds one of `/`, `?`, `#`, `@` and `:`. -/
def disguised : List Nat :=
  [0x2047, 0x2048, 0x2049, 0x2100, 0x2101, 0x2105, 0x2106, 0x2A74, 0xFE13, 0xFE16, 0xFE55, 0xFE56,
    0xFE5F, 0xFE6B, 0xFF03, 0xFF0F, 0xFF1A, 0xFF1F, 0xFF20]

/-- What stands after the last `@` of an authority. -/
def place (authority : List Char) : List Char :=
  match Text.cutLast? '@' authority with
  | some (_, place) => place
  | none => authority

/-- The host as it is written at a place: in the first brackets, or before the first colon. -/
def writtenHost (place : List Char) : List Char :=
  match Text.cutFirst '[' place with
  | (_, some inside) => (Text.cutFirst ']' inside).1
  | (_, none) => (Text.cutFirst ':' place).1

/-- Nothing stands before the brackets of a place, and nothing but a port after them. -/
def bracketsFit (place : List Char) : Bool :=
  match Text.cutFirst '[' place with
  | (before, some inside) =>
    before.isEmpty &&
      match Text.cutFirst ']' inside with
      | (_, some (c :: _)) => c == ':'
      | _ => true
  | (_, none) => true

/-- Refuses a host that may not stand in brackets. -/
def checkHost (host : List Char) : Except UrlError Unit :=
  if host.head? == some 'v' then
    if isFutureAddress host then .ok () else .error .futureAddress
  else if isDottedAddress host then .error .dottedAddress
  else if isGroupedAddress host then .ok ()
  else .error (.notAnAddress (String.ofList host))

/-- Refuses an authority that hides a delimiter or whose brackets are out of place. The host of one
with brackets anywhere, also before the `@`, has to be fit for brackets. -/
def checkAuthority (authority : List Char) : Except UrlError Unit := do
  let opens := authority.contains '['
  if opens != authority.contains ']' then throw .misplacedBracket
  if opens then
    unless bracketsFit (place authority) do throw .misplacedBracket
    checkHost (writtenHost (place authority))
  if authority.any (disguised.contains ·.toNat) then
    throw (.compatibilityForm (String.ofList authority))

/-- The host of an authority, in lower case up to a zone; empty if there is none. -/
def host (authority : List Char) : String :=
  match Text.cutFirst '%' (writtenHost (place authority)) with
  | (name, some zone) => Text.lower (String.ofList name) ++ String.ofList ('%' :: zone)
  | (name, none) => Text.lower (String.ofList name)

/-- The authority and the path of a URL that has a scheme. -/
def authorityAndPath (url : List Char) : List Char × List Char :=
  let clean := (url.dropWhile fun c => c.toNat ≤ 0x20).filter
    fun c => c != '\t' && c != '\r' && c != '\n'
  let (authority, rest) := match afterScheme clean with
    | '/' :: '/' :: cs =>
      (cs.takeWhile (!endsAuthority ·), cs.dropWhile (!endsAuthority ·))
    | cs => ([], cs)
  (authority, (Text.cutFirst '?' (Text.cutFirst '#' rest).1).1)

/-- The host and the path of what is typed. Without `://` the scheme is taken to be missing; without
a host the whole text stands for it, and an empty path is the root. -/
def hostAndPath (typed : String) : Except UrlError (String × String) := do
  let url := if Text.contains typed "://" then typed else "http://" ++ typed
  let (authority, path) := authorityAndPath url.toList
  checkAuthority authority
  let host := host authority
  return (if host.isEmpty then typed else host, if path.isEmpty then "/" else String.ofList path)

end Url
end EditorShell

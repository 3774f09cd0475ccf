import EditorShell.Json.Token

/-!
# Reading JSON

The tokens of a text drive a machine with a stack: each open list or object is a frame that holds
what has been read of it. In an object with a repeated key the last value counts, at the place of
the first. Of two things that are wrong with a text the one in front is found.
-/

namespace EditorShell
namespace Json

/-- Why a text is not read. -/
inductive ReadError where
  /-- It is no JSON, or nested too deeply. -/
  | malformed
  /-- One of its numbers has too many digits. -/
  | oversized (digits : Nat)
deriving DecidableEq, Repr

/-- An open list, its elements in reverse order, or an open object with the key that waits. -/
inductive Frame (τ : Type) where
  | elements (done : List (Json τ))
  | member (done : List (τ × Json τ)) (key : τ)

/-- What has been read, and what may come next. -/
inductive Reading (τ : Type) where
  /-- A value. -/
  | value (stack : List (Frame τ))
  /-- The first element of a list, or its end. -/
  | listStart (stack : List (Frame τ))
  /-- The first key of an object, or its end. -/
  | objectStart (stack : List (Frame τ))
  /-- A further key. -/
  | nextKey (done : List (τ × Json τ)) (stack : List (Frame τ))
  /-- The colon after a key. -/
  | separator (done : List (τ × Json τ)) (key : τ) (stack : List (Frame τ))
  /-- A comma or an end, after a value. -/
  | after (v : Json τ) (stack : List (Frame τ))

namespace Reading

variable {τ : Type}

/-- Reads a token where a value is expected. -/
def beginValue (stack : List (Frame τ)) : Token τ → Except ReadError (Reading τ)
  | .arrayOpen => .ok (.listStart stack)
  | .objectOpen => .ok (.objectStart stack)
  | .text s => .ok (.after (.string s) stack)
  | .atom v => .ok (.after v stack)
  | .oversized digits => .error (.oversized digits)
  | _ => .error .malformed

/-- Reads one token. -/
def step [DecidableEq τ] : Reading τ → Token τ → Except ReadError (Reading τ)
  | .value stack, token => beginValue stack token
  | .listStart stack, .arrayClose => .ok (.after (.array []) stack)
  | .listStart stack, token => beginValue (.elements [] :: stack) token
  | .objectStart stack, .objectClose => .ok (.after (.object []) stack)
  | .objectStart stack, .text key => .ok (.separator [] key stack)
  | .nextKey done stack, .text key => .ok (.separator done key stack)
  | .separator done key stack, .colon => .ok (.value (.member done key :: stack))
  | .after v (.elements done :: stack), .comma => .ok (.value (.elements (v :: done) :: stack))
  | .after v (.elements done :: stack), .arrayClose =>
    .ok (.after (.array (v :: done).reverse) stack)
  | .after v (.member done key :: stack), .comma => .ok (.nextKey (Table.setIn key v done) stack)
  | .after v (.member done key :: stack), .objectClose =>
    .ok (.after (.object (Table.setIn key v done)) stack)
  | _, _ => .error .malformed

/-- The frames of what is open. -/
def stack : Reading τ → List (Frame τ)
  | .value stack | .listStart stack | .objectStart stack => stack
  | .nextKey _ stack | .separator _ _ stack | .after _ stack => stack

/-- What is open is nested no deeper than allowed. -/
def fits (depth? : Option Nat) (reading : Reading τ) : Bool :=
  match depth? with
  | none => true
  | some depth => reading.stack.length ≤ depth

/-- Reads tokens from left to right. -/
def run [DecidableEq τ] (depth? : Option Nat) (reading : Reading τ) :
    List (Token τ) → Except ReadError (Reading τ)
  | [] => .ok reading
  | token :: tokens => do
    let next ← step reading token
    if next.fits depth? then run depth? next tokens else .error .malformed

/-- The value, when nothing is open any more. -/
def result : Reading τ → Except ReadError (Json τ)
  | .after v [] => .ok v
  | _ => .error .malformed

end Reading

/-- The value that a text writes. -/
def read {τ : Type} [DecidableEq τ] (rules : Rules τ) (s : String) : Except ReadError (Json τ) := do
  (← Reading.run rules.depth? (.value []) (tokens rules s.toList)).result

end Json
end EditorShell

/-!
# Findings of a validation

Data from outside is checked field by field, and everything that is wrong with it is reported, each
finding with the way to it: the keys and positions that lead from the whole to the part.
-/

namespace EditorShell

/-- A step from a value to a part of it. -/
inductive Step where
  | key (name : String)
  | index (i : Nat)
deriving DecidableEq, Repr

/-- What is wrong with a value. -/
inductive Fault where
  | invalidJson
  | missing
  | notString
  | notList
  | notSet
  | notObject
  /-- The value is none of those that are allowed. -/
  | notAllowed
  | notInteger
  /-- The text is no whole number. -/
  | unreadableInteger
  /-- The text or number has too many digits. -/
  | oversizedInteger
  /-- The number has a fraction. -/
  | fractionalInteger
  /-- The number is infinite or no number. -/
  | notFinite
  | notNumber
  /-- The text is no number. -/
  | unreadableNumber
  /-- The number is not as large as the least one that is allowed. -/
  | tooSmall
deriving DecidableEq, Repr

/-- A fault and the way to it. -/
structure Finding where
  location : List Step
  fault : Fault
deriving DecidableEq, Repr

/-- A step as it is written on the way to a part. -/
def Step.text : Step → String
  | .key name => name
  | .index i => toString i

/-- The places of findings, for a message. -/
def Finding.summary (findings : List Finding) : String :=
  "not valid at " ++ ", ".intercalate
    (findings.map fun f => "/" ++ "/".intercalate (f.location.map Step.text))

/-- A value that has passed its checks, or everything that is wrong with it. -/
abbrev Checked (α : Type) := Except (List Finding) α

namespace Checked

/-- A single fault at the value itself. -/
def fail {α : Type} (fault : Fault) : Checked α := .error [⟨[], fault⟩]

/-- The findings about a part become findings about the whole. -/
def under {α : Type} (step : Step) : Checked α → Checked α
  | .ok a => .ok a
  | .error findings => .error (findings.map fun f => { f with location := step :: f.location })

/-- What is wrong. -/
def findings {α : Type} : Checked α → List Finding
  | .ok _ => []
  | .error findings => findings

/-- Both values, or the findings about both. -/
def both {α β : Type} : Checked α → Checked β → Checked (α × β)
  | .ok a, .ok b => .ok (a, b)
  | a, b => .error (a.findings ++ b.findings)

end Checked
end EditorShell

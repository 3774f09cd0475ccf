import EditorShell.Text.Basic

/-!
# The history of a session

Each line that is run leaves an entry. The history keeps the last entries up to its limit, and cuts
the line and its arguments, but never the output, to its text limit.
-/

namespace EditorShell

/-- A line that was run, and what came of it. -/
structure Entry where
  command : String
  args : List String
  output : String
  exitCode : Int
deriving DecidableEq, Repr, Inhabited

namespace Entry

/-- The entry of a line without words. -/
def blank : Entry := ⟨"", [], "", 0⟩

/-- The entry with the line and each argument cut to `limit` characters. -/
def cut (limit : Nat) (entry : Entry) : Entry :=
  { entry with command := Text.take limit entry.command, args := entry.args.map (Text.take limit) }

end Entry

/-- The last `n` elements of a list. -/
def lastOf {α : Type} (n : Nat) (as : List α) : List α := as.drop (as.length - n)

theorem length_lastOf {α : Type} (n : Nat) (as : List α) :
    (lastOf n as).length = min n as.length := by simp [lastOf]; omega

/-- The entries of a session, the oldest first. -/
structure History where
  entries : List Entry
  /-- How many entries are kept. -/
  limit : Nat
  /-- How many characters of a line or an argument are kept. -/
  textLimit : Nat
deriving DecidableEq, Repr

namespace History

/-- The most entries that a history can be asked to keep. -/
def largestLimit : Nat := Nat.pow 2 63 - 1

/-- The history with one more entry, which is cut; the oldest entry goes if there are too many. -/
def record (history : History) (entry : Entry) : History :=
  { history with
    entries := lastOf history.limit (history.entries ++ [entry.cut history.textLimit]) }

/-- The history without its entries. -/
def clear (history : History) : History := { history with entries := [] }

/-- The entries with their positions, counted from one. -/
def numbered (history : History) : List (Nat × Entry) :=
  (history.entries.zipIdx 1).map fun (entry, i) => (i, entry)

/-- The last `count` entries with their positions; all without a count, none for a count below
one. -/
def recent (history : History) : Option Int → List (Nat × Entry)
  | none => history.numbered
  | some count => lastOf count.toNat history.numbered

end History
end EditorShell

/-!
# Tables

A table maps names to values and remembers the order in which the names were first entered: setting
a name that is present keeps its place. No name occurs twice. `get?` is the view through which the
operations are described (`get?_set`, `get?_erase`), `keys` shows the order.
-/

namespace EditorShell

universe u v w

/-- A finite map from names to values in order of first entry. -/
structure Table (α : Type u) where
  /-- The names with their values, in order. -/
  entries : List (String × α)
  /-- No name occurs twice. -/
  nodup : (entries.map Prod.fst).Nodup
deriving DecidableEq

namespace Table

variable {α : Type u} {β : Type v}

@[ext] theorem ext {t t' : Table α} (h : t.entries = t'.entries) : t = t' := by
  cases t; cases t'; simp_all

/-- The table without entries. -/
def empty : Table α := ⟨[], by simp⟩

instance : Inhabited (Table α) := ⟨empty⟩

instance [Repr α] : Repr (Table α) := ⟨fun t => reprPrec t.entries⟩

/-- The names, in order. -/
def keys (t : Table α) : List String := t.entries.map Prod.fst

/-- The value of a name. -/
def get? (t : Table α) (key : String) : Option α := t.entries.lookup key

/-- The name is present. -/
def contains (t : Table α) (key : String) : Bool := t.keys.contains key

/-- The value of a name, or `default` if the name is absent. -/
def getD (t : Table α) (key : String) (default : α) : α := (t.get? key).getD default

/-- There is no entry. -/
def isEmpty (t : Table α) : Bool := t.entries.isEmpty

/-! ## Setting -/

section Entries

variable {κ : Type w} [DecidableEq κ]

/-- Replaces the value of `key`, or adds `key` at the end. -/
def setIn (key : κ) (value : α) : List (κ × α) → List (κ × α)
  | [] => [(key, value)]
  | entry :: rest =>
    if entry.1 = key then (key, value) :: rest else entry :: setIn key value rest

theorem keys_setIn (key : κ) (value : α) (entries : List (κ × α)) :
    (setIn key value entries).map Prod.fst =
      if key ∈ entries.map Prod.fst then entries.map Prod.fst
      else entries.map Prod.fst ++ [key] := by
  induction entries with
  | nil => simp [setIn]
  | cons entry rest ih =>
    by_cases h : entry.1 = key
    · simp [setIn, h]
    · simp only [setIn, h, if_false, List.map_cons, ih, List.mem_cons, Ne.symm h, false_or]
      split <;> simp

theorem setIn_of_notMem {key : κ} {entries : List (κ × α)} (h : key ∉ entries.map Prod.fst)
    (value : α) : setIn key value entries = entries ++ [(key, value)] := by
  induction entries with
  | nil => rfl
  | cons entry rest ih =>
    rw [List.map_cons, List.mem_cons, not_or] at h
    rw [setIn, if_neg (Ne.symm h.1), ih h.2, List.cons_append]

theorem lookup_entry (key : κ) (entry : κ × α) (rest : List (κ × α)) :
    (entry :: rest).lookup key = if key = entry.1 then some entry.2 else rest.lookup key := by
  rw [List.lookup_cons]
  by_cases h : key = entry.1
  · simp [h]
  · simp [h, beq_eq_false_iff_ne.2 h]

theorem lookup_setIn (key : κ) (value : α) (entries : List (κ × α)) (key' : κ) :
    (setIn key value entries).lookup key' =
      if key' = key then some value else entries.lookup key' := by
  induction entries with
  | nil => simp [setIn, lookup_entry]
  | cons entry rest ih =>
    by_cases hk : entry.1 = key
    · simp only [setIn, hk, if_true, lookup_entry]
      split <;> simp
    · simp only [setIn, hk, if_false, lookup_entry, ih]
      grind

end Entries

/-- The table with `value` under `key`. -/
def set (t : Table α) (key : String) (value : α) : Table α where
  entries := setIn key value t.entries
  nodup := by
    rw [keys_setIn]
    split
    · exact t.nodup
    · next h => exact List.nodup_append.2 ⟨t.nodup, by simp, by intro a ha b hb; simp at hb; grind⟩

theorem keys_set (t : Table α) (key : String) (value : α) :
    (t.set key value).keys = if key ∈ t.keys then t.keys else t.keys ++ [key] :=
  keys_setIn key value t.entries

@[simp] theorem mem_keys_set {t : Table α} {key key' : String} {value : α} :
    key' ∈ (t.set key value).keys ↔ key' ∈ t.keys ∨ key' = key := by
  rw [keys_set]; split <;> grind

@[simp] theorem get?_set (t : Table α) (key : String) (value : α) (key' : String) :
    (t.set key value).get? key' = if key' = key then some value else t.get? key' :=
  lookup_setIn key value t.entries key'

/-- The table with the entries of a list set from left to right: the last value of a name counts,
at the place of its first. -/
def ofList (entries : List (String × α)) : Table α :=
  entries.foldl (fun t entry => t.set entry.1 entry.2) empty

/-! ## Erasing -/

/-- The table without `key`. -/
def erase (t : Table α) (key : String) : Table α where
  entries := t.entries.filter (·.1 ≠ key)
  nodup := t.nodup.sublist (List.filter_sublist.map _)

@[simp] theorem mem_keys_erase {t : Table α} {key key' : String} :
    key' ∈ (t.erase key).keys ↔ key' ∈ t.keys ∧ key' ≠ key := by
  simp [keys, erase]

/-- Entries are found among those that are kept as long as their names are kept. -/
theorem lookup_filter (keep : String → Bool) (key : String) (entries : List (String × α)) :
    (entries.filter (keep ·.1)).lookup key = if keep key then entries.lookup key else none := by
  induction entries with
  | nil => simp
  | cons entry rest ih =>
    rw [List.filter_cons, lookup_entry]
    split
    · rw [lookup_entry, ih]
      grind
    · rw [ih]
      grind

@[simp] theorem get?_erase (t : Table α) (key key' : String) :
    (t.erase key).get? key' = if key' = key then none else t.get? key' := by
  rw [get?, erase, lookup_filter (fun k => decide (k ≠ key))]
  by_cases h : key' = key <;> simp [h, get?]

/-! ## Membership -/

@[simp] theorem get?_empty (key : String) : (empty : Table α).get? key = none := rfl

theorem lookup_isSome (key : String) (entries : List (String × α)) :
    (entries.lookup key).isSome = true ↔ key ∈ entries.map Prod.fst := by
  induction entries with
  | nil => simp
  | cons entry rest ih =>
    rw [lookup_entry]
    by_cases h : key = entry.1 <;> simp_all

theorem get?_isSome_iff {t : Table α} {key : String} :
    (t.get? key).isSome = true ↔ key ∈ t.keys := lookup_isSome key t.entries

theorem mem_keys_of_get? {t : Table α} {key : String} {value : α} (h : t.get? key = some value) :
    key ∈ t.keys := get?_isSome_iff.1 (Option.isSome_of_eq_some h)

theorem get?_eq_none_iff {t : Table α} {key : String} : t.get? key = none ↔ key ∉ t.keys := by
  rw [← get?_isSome_iff]; cases t.get? key <;> simp

@[simp] theorem contains_iff {t : Table α} {key : String} :
    t.contains key = true ↔ key ∈ t.keys := by
  simp [contains]

/-- The entries in code point order of their names. -/
def sorted (t : Table α) : List (String × α) :=
  t.entries.mergeSort fun a b => decide (a.1 ≤ b.1)

end Table
end EditorShell

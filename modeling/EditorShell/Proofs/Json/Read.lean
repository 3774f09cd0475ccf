import EditorShell.Json.Reader
import EditorShell.Proofs.Json.Tokens
import Mathlib.Tactic.SplitIfs

/-!
# What is written is read again

The reader keeps a frame for each list or object that is open and has something in it. A value needs
as many frames as it is nested deep, and the reader gets through its tokens exactly if these frames
fit on top of those that are there already (`run_value`). So a reader with a bound on its frames
reads what was written of a value, or refuses it, by the nesting of the value alone (`read_render`).
-/

namespace EditorShell

namespace Json

/-- A key that has not been read yet comes last. -/
theorem setIn_of_nodup {done : List (String × Json)} {key : String} {keys : List String}
    (h : (done.map Prod.fst ++ key :: keys).Nodup) (v : Json) :
    Table.setIn key v done = done ++ [(key, v)] := by
  refine Table.setIn_of_notMem (fun hmem => ?_) v
  exact (List.nodup_append.1 h).2.2 key hmem key List.mem_cons_self rfl

mutual

/-- How many lists and objects with something in them are nested in one another. -/
def nesting : Json → Nat
  | .array (v :: vs) => max (nesting v) (nestingAll vs) + 1
  | .object ((_, v) :: members) => max (nesting v) (membersNesting members) + 1
  | _ => 0

/-- The deepest nesting of the elements. -/
def nestingAll : List Json → Nat
  | [] => 0
  | v :: vs => max (nesting v) (nestingAll vs)

/-- The deepest nesting of the values of the members. -/
def membersNesting : List (String × Json) → Nat
  | [] => 0
  | (_, v) :: members => max (nesting v) (membersNesting members)

end

namespace Reading

variable {depth : Nat}

/-- A token that can come next is read if what is open then, `n` frames, is not too deep. -/
theorem run_step (reading : Reading String) (token : Token String) {next : Reading String} {n : Nat}
    (h : step reading token = .ok next) (hn : next.stack.length = n) (rest : List (Token String)) :
    run (some depth) reading (token :: rest) =
      if n ≤ depth then run (some depth) next rest else .error .malformed := by
  rw [run, h, ← hn]
  simp [fits, Bind.bind, Except.bind]

/-- The first element of a list is read like any value. -/
theorem run_listStart (v : Json) (stack : List (Frame String)) (rest : List (Token String)) :
    run (some depth) (.listStart stack) (toTokens v ++ rest) =
      run (some depth) (.value (.elements [] :: stack)) (toTokens v ++ rest) := by
  rcases v with _ | _ | _ | _ | _ | (_ | _) | (_ | _) <;> rfl

mutual

/-- **A value is read** if its frames fit on top of the `n` that are open, and refused else. -/
theorem run_value : ∀ (v : Json), v.Textual → ∀ (stack : List (Frame String)) {n : Nat},
    stack.length = n → ∀ (rest : List (Token String)),
    run (some depth) (.value stack) (toTokens v ++ rest) =
      if n + nesting v ≤ depth then run (some depth) (.after v stack) rest
      else .error .malformed
  | .string s, _, stack, n, hn, rest => run_step (.value stack) (.text s) rfl hn rest
  | .array [], _, stack, n, hn, rest => by
    show run (some depth) (.value stack) (.arrayOpen :: .arrayClose :: rest) =
      if n ≤ depth then run (some depth) (.after (.array []) stack) rest else .error .malformed
    rw [run_step (.value stack) .arrayOpen rfl hn, run_step (.listStart stack) .arrayClose rfl hn]
    split_ifs <;> rfl
  | .array (v :: vs), h, stack, n, hn, rest => by
    obtain ⟨hv, hvs⟩ := h
    have hrest := run_elements vs hvs v [] n hn rest
    have hframe : stack.length + 1 = n + 1 := congrArg (· + 1) hn
    rw [toTokens, nesting]
    simp only [List.cons_append, List.append_assoc, List.nil_append]
    rw [run_step (.value stack) .arrayOpen rfl hn, run_listStart,
      run_value v hv (.elements [] :: stack) hframe]
    -- the frame of the list counts for each of its elements
    split_ifs with hstart hfirst hall hall
    · rw [hrest (by omega), if_pos (by omega)]
      rfl
    · rw [hrest (by omega), if_neg (by omega)]
    all_goals first | rfl | omega
  | .object [], _, stack, n, hn, rest => by
    show run (some depth) (.value stack) (.objectOpen :: .objectClose :: rest) =
      if n ≤ depth then run (some depth) (.after (.object []) stack) rest else .error .malformed
    rw [run_step (.value stack) .objectOpen rfl hn,
      run_step (.objectStart stack) .objectClose rfl hn]
    split_ifs <;> rfl
  | .object ((key, v) :: members), h, stack, n, hn, rest => by
    obtain ⟨hkeys, hv, hmembers⟩ := h
    have hrest := run_members members hmembers v [] hkeys n hn rest
    have hframe : stack.length + 1 = n + 1 := congrArg (· + 1) hn
    rw [toTokens, nesting]
    simp only [List.cons_append, List.append_assoc, List.nil_append]
    rw [run_step (.value stack) .objectOpen rfl hn,
      run_step (.objectStart stack) (.text key) rfl hn,
      run_step (.separator [] key stack) .colon rfl hframe,
      run_value v hv (.member [] key :: stack) hframe]
    split_ifs with hstart hopen hfirst hall hall
    · rw [hrest (by omega), if_pos (by omega)]
      rfl
    · rw [hrest (by omega), if_neg (by omega)]
    all_goals first | rfl | omega
  | .null, h, _, _, _, _ | .bool _, h, _, _, _, _ | .int _, h, _, _, _, _
  | .real _, h, _, _, _, _ => h.elim

/-- The rest of a list whose first elements have been read. -/
theorem run_elements : ∀ (vs : List Json), AllTextual vs → ∀ (v : Json) (done : List Json)
    {stack : List (Frame String)} (n : Nat), stack.length = n → ∀ (rest : List (Token String)),
    n < depth → run (some depth) (.after v (.elements done :: stack))
        (elementTokens vs ++ .arrayClose :: rest) =
      if n + 1 + nestingAll vs ≤ depth then
        run (some depth) (.after (.array (done.reverse ++ v :: vs)) stack) rest
      else .error .malformed
  | [], _, v, done, stack, n, hn, rest, hopen => by
    show run (some depth) (.after v (.elements done :: stack)) (.arrayClose :: rest) = _
    rw [run_step (.after v (.elements done :: stack)) .arrayClose rfl hn,
      if_pos (Nat.le_of_lt hopen), nestingAll, if_pos (show n + 1 + 0 ≤ depth from hopen),
      List.reverse_cons]
  | w :: vs, h, v, done, stack, n, hn, rest, hopen => by
    obtain ⟨hw, hvs⟩ := h
    have hframe : stack.length + 1 = n + 1 := congrArg (· + 1) hn
    have hrest := run_elements vs hvs w (v :: done) n hn rest hopen
    rw [List.reverse_cons, List.append_assoc, List.singleton_append] at hrest
    rw [elementTokens, nestingAll, List.cons_append, List.append_assoc,
      run_step (.after v (.elements done :: stack)) .comma rfl hframe,
      run_value w hw (.elements (v :: done) :: stack) hframe, hrest]
    split_ifs
    all_goals first | rfl | omega

/-- The rest of an object whose first members have been read. -/
theorem run_members : ∀ (members : List (String × Json)), MembersTextual members →
    ∀ (v : Json) {key : String} (done : List (String × Json)),
    (done.map Prod.fst ++ key :: members.map Prod.fst).Nodup →
    ∀ {stack : List (Frame String)} (n : Nat), stack.length = n → ∀ (rest : List (Token String)),
    n < depth → run (some depth) (.after v (.member done key :: stack))
        (memberTokens members ++ .objectClose :: rest) =
      if n + 1 + membersNesting members ≤ depth then
        run (some depth) (.after (.object (done ++ (key, v) :: members)) stack) rest
      else .error .malformed
  | [], _, v, key, done, hkeys, stack, n, hn, rest, hopen => by
    have hset : Table.setIn key v done = done ++ [(key, v)] := setIn_of_nodup hkeys v
    show run (some depth) (.after v (.member done key :: stack)) (.objectClose :: rest) = _
    rw [run_step (.after v (.member done key :: stack)) .objectClose rfl hn,
      if_pos (Nat.le_of_lt hopen), membersNesting, if_pos (show n + 1 + 0 ≤ depth from hopen),
      hset]
  | (next, w) :: members, h, v, key, done, hkeys, stack, n, hn, rest, hopen => by
    obtain ⟨hw, hmembers⟩ := h
    have hset : Table.setIn key v done = done ++ [(key, v)] := setIn_of_nodup hkeys v
    have hkeys' : ((done ++ [(key, v)]).map Prod.fst ++ next :: members.map Prod.fst).Nodup := by
      simpa using hkeys
    have hframe : stack.length + 1 = n + 1 := congrArg (· + 1) hn
    have hrest := run_members members hmembers w (done ++ [(key, v)]) hkeys' n hn rest hopen
    rw [List.append_assoc, List.singleton_append] at hrest
    rw [memberTokens, membersNesting, List.cons_append, List.cons_append, List.cons_append,
      List.append_assoc, run_step (.after v (.member done key :: stack)) .comma rfl hn, hset,
      run_step (.nextKey (done ++ [(key, v)]) stack) (.text next) rfl hn,
      run_step (.separator (done ++ [(key, v)]) next stack) .colon rfl hframe,
      run_value w hw (.member (done ++ [(key, v)]) next :: stack) hframe, hrest]
    split_ifs
    all_goals first | rfl | omega

end

end Reading

/-- **What is written of a value is read again** if the reader allows for its nesting, and refused
else. Blanks may follow what is written. -/
theorem read_render {rules : Rules String} (hrules : rules.Faithful) {depth : Nat}
    (hdepth : rules.depth? = some depth) {v : Json} (h : v.Textual) (indent : Option Nat)
    {blanks : String} (hblanks : ∀ c ∈ blanks.toList, isSpace c = true) :
    read rules (render (.plain indent) v ++ blanks) =
      if nesting v ≤ depth then .ok v else .error .malformed := by
  have hrun : Reading.run rules.depth? (.value []) (toTokens v) =
      if nesting v ≤ depth then .ok (.after v []) else .error .malformed := by
    have hvalue := @Reading.run_value depth v h [] 0 rfl []
    rw [List.append_nil, Nat.zero_add] at hvalue
    rw [hdepth, hvalue]
    rfl
  rw [read, tokens_render hrules h hblanks, hrun]
  split_ifs <;> rfl

end Json
end EditorShell

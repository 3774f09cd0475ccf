import EditorShell.Json.Printer
import EditorShell.Json.Token

/-!
# The tokens of what is written

A value that is made of texts, lists and objects is cut into the same tokens however it is laid out:
blanks go, and the escapes of a text give back its characters (`tokens_write`). Numbers and words
are left out, since where they end depends on what follows them.
-/

namespace EditorShell
namespace Json

/-! ## Values made of texts -/

mutual

/-- The value is made of texts, lists and objects, and no key of an object occurs twice. -/
def Textual : Json → Prop
  | .string _ => True
  | .array elements => AllTextual elements
  | .object members => (members.map Prod.fst).Nodup ∧ MembersTextual members
  | _ => False

/-- All elements are made of texts. -/
def AllTextual : List Json → Prop
  | [] => True
  | v :: vs => Textual v ∧ AllTextual vs

/-- The values of all members are made of texts. -/
def MembersTextual : List (String × Json) → Prop
  | [] => True
  | (_, v) :: members => Textual v ∧ MembersTextual members

end

mutual

/-- The tokens of a value. -/
def toTokens : Json → List (Token String)
  | .string s => [.text s]
  | .array [] => [.arrayOpen, .arrayClose]
  | .array (v :: vs) => .arrayOpen :: (toTokens v ++ (elementTokens vs ++ [.arrayClose]))
  | .object [] => [.objectOpen, .objectClose]
  | .object ((key, v) :: members) =>
    .objectOpen :: .text key :: .colon :: (toTokens v ++ (memberTokens members ++ [.objectClose]))
  | v => [.atom v]

/-- The tokens of further elements. -/
def elementTokens : List Json → List (Token String)
  | [] => []
  | v :: vs => .comma :: (toTokens v ++ elementTokens vs)

/-- The tokens of further members. -/
def memberTokens : List (String × Json) → List (Token String)
  | [] => []
  | (key, v) :: members => .comma :: .text key :: .colon :: (toTokens v ++ memberTokens members)

end

/-! ## Escapes -/

theorem hexValue?_hexDigit (n : Nat) : Text.hexValue? (Text.hexDigit n) = some (n % 16) := by
  have hdigit : Text.hexDigit n = Text.hexDigit (n % 16) := by
    simp only [Text.hexDigit, Nat.mod_mod]
  have hall : ∀ d < 16, Text.hexValue? (Text.hexDigit d) = some d := by decide
  rw [hdigit, hall _ (Nat.mod_lt n (by decide))]

/-- Four digits give back a 16-bit unit. -/
theorem units?_hex {n : Nat} (h : n < 0x10000) (cs : List Char) :
    units? ('\\' :: 'u' :: (Text.hex 4 n ++ cs)) =
      (units? cs).map fun (ns, rest) => (n :: ns, rest) := by
  have hunit : unit? (Text.hexDigit (n / 16 / 16 / 16)) (Text.hexDigit (n / 16 / 16))
      (Text.hexDigit (n / 16)) (Text.hexDigit n) = some n := by
    simp only [unit?, hexValue?_hexDigit, Option.bind_eq_bind, Option.bind_some,
      Option.some.injEq]
    omega
  simp only [Text.hex, List.nil_append, List.cons_append, units?, hunit, Option.bind_eq_bind,
    Option.bind_some]
  cases units? cs <;> rfl

/-- What is written for a character is read as this character. -/
theorem units?_escape (c : Char) (cs : List Char) :
    units? (escape c ++ cs) = (units? cs).map fun (ns, rest) => (c.toNat :: ns, rest) := by
  unfold escape escapeControl?
  split
  case h_8 hquote hbackslash _ _ _ _ _ =>
    split
    next hcontrol =>
      exact units?_hex (Nat.lt_trans hcontrol (by decide)) cs
    next hcontrol =>
      rw [Option.getD_none, List.singleton_append, units?]
      · rw [if_neg hcontrol]
        cases units? cs <;> rfl
      all_goals simp_all
  all_goals
    simp [units?, unescape?]
    cases units? cs <;> rfl

/-- A text is read up to its closing quote. -/
theorem units?_flatMap_escape (cs rest : List Char) :
    units? (cs.flatMap escape ++ '"' :: rest) = some (cs.map Char.toNat, rest) := by
  induction cs with
  | nil => simp [units?]
  | cons c cs ih =>
    rw [List.flatMap_cons, List.append_assoc, units?_escape, ih]
    rfl

/-! ## Cutting -/

section

variable {rules : Rules String} {indent : Option Nat}

theorem tokens_space {c : Char} (h : isSpace c = true) (cs : List Char) :
    tokens rules (c :: cs) = tokens rules cs := by
  rw [tokens, if_pos h]

theorem tokens_mark {c : Char} {token : Token String} (hspace : isSpace c = false)
    (hmark : mark? c = some token) (cs : List Char) :
    tokens rules (c :: cs) = token :: tokens rules cs := by
  rw [tokens, hspace, hmark]
  rfl

theorem tokens_newline (level : Nat) (cs : List Char) :
    tokens rules (newline (.plain indent) level ++ cs) = tokens rules cs := by
  have hspaces (n : Nat) : tokens rules (List.replicate n ' ' ++ cs) = tokens rules cs := by
    induction n with
    | zero => rfl
    | succ n ih => rw [List.replicate_succ, List.cons_append, tokens_space rfl, ih]
  cases indent with
  | none => rfl
  | some width =>
    show tokens rules ('\n' :: (List.replicate (width * level) ' ' ++ cs)) = tokens rules cs
    rw [tokens_space rfl, hspaces]

theorem tokens_colon (cs : List Char) :
    tokens rules (colon (.plain indent) ++ cs) = .colon :: tokens rules cs := by
  cases indent with
  | none => exact tokens_mark rfl rfl cs
  | some width =>
    show tokens rules (':' :: ' ' :: cs) = .colon :: tokens rules cs
    rw [tokens_mark rfl rfl, tokens_space rfl]

/-- The rules take the code points of a text for that text. -/
def Rules.Faithful (rules : Rules String) : Prop :=
  ∀ s : String, rules.text? (s.toList.map Char.toNat) = some s

theorem Rules.faithful_strict : Rules.strict.Faithful := by
  intro s
  show Text.text? (Text.Symbol.ofUnits (s.toList.map Char.toNat)) = some s
  rw [Text.Symbol.ofUnits_toNat]
  exact Text.text?_symbols s

theorem tokens_quote (hrules : rules.Faithful) (s : String) (cs : List Char) :
    tokens rules (quote (.plain indent) s ++ cs) = .text s :: tokens rules cs := by
  have hunits : units? (s.toList.flatMap escape ++ '"' :: cs) =
      some (s.toList.map Char.toNat, cs) := units?_flatMap_escape s.toList cs
  have hquote : quote (.plain indent) s ++ cs = '"' :: (s.toList.flatMap escape ++ '"' :: cs) := by
    simp [quote, Style.plain]
  have hspace : isSpace '"' = false := rfl
  have hmark : (mark? '"' : Option (Token String)) = none := rfl
  rw [hquote, tokens, hspace, hmark]
  simp only [if_true, Bool.false_eq_true, if_false]
  split
  next hnone =>
    rw [hunits] at hnone
    cases hnone
  next ns rest hsome =>
    rw [hunits] at hsome
    cases hsome
    rw [hrules s]

mutual

/-- **A value is cut into its tokens,** wherever it stands and whatever follows. -/
theorem tokens_write (hrules : rules.Faithful) : ∀ (v : Json), v.Textual →
    ∀ (level : Nat) (cs : List Char), tokens rules (write (.plain indent) level v ++ cs) =
      toTokens v ++ tokens rules cs
  | .string s, _, level, cs => by
    rw [write, tokens_quote hrules]
    rfl
  | .array [], _, level, cs => by
    show tokens rules ('[' :: ']' :: cs) = _
    rw [tokens_mark rfl rfl, tokens_mark rfl rfl]
    rfl
  | .array (v :: vs), h, level, cs => by
    obtain ⟨hv, hvs⟩ := h
    simp only [write, toTokens, List.cons_append, List.append_assoc, List.nil_append]
    rw [tokens_mark rfl rfl, tokens_newline, tokens_write hrules v hv,
      tokens_writeElements hrules vs hvs, tokens_newline, tokens_mark rfl rfl]
  | .object [], _, level, cs => by
    show tokens rules ('\x7b' :: '\x7d' :: cs) = _
    rw [tokens_mark rfl rfl, tokens_mark rfl rfl]
    rfl
  | .object ((key, v) :: members), h, level, cs => by
    obtain ⟨-, hv, hmembers⟩ := h
    simp only [write, toTokens, List.cons_append, List.append_assoc, List.nil_append]
    rw [tokens_mark rfl rfl, tokens_newline, tokens_quote hrules, tokens_colon,
      tokens_write hrules v hv, tokens_writeMembers hrules members hmembers, tokens_newline,
      tokens_mark rfl rfl]
  | .null, h, _, _ | .bool _, h, _, _ | .int _, h, _, _ | .real _, h, _, _ => h.elim

theorem tokens_writeElements (hrules : rules.Faithful) : ∀ (vs : List Json), AllTextual vs →
    ∀ (level : Nat) (cs : List Char),
      tokens rules (writeElements (.plain indent) level vs ++ cs) =
        elementTokens vs ++ tokens rules cs
  | [], _, level, cs => rfl
  | v :: vs, h, level, cs => by
    obtain ⟨hv, hvs⟩ := h
    simp only [writeElements, elementTokens, List.cons_append, List.append_assoc]
    rw [tokens_mark rfl rfl, tokens_newline, tokens_write hrules v hv,
      tokens_writeElements hrules vs hvs]

theorem tokens_writeMembers (hrules : rules.Faithful) :
    ∀ (members : List (String × Json)), MembersTextual members → ∀ (level : Nat) (cs : List Char),
      tokens rules (writeMembers (.plain indent) level members ++ cs) =
        memberTokens members ++ tokens rules cs
  | [], _, level, cs => rfl
  | (key, v) :: members, h, level, cs => by
    obtain ⟨hv, hmembers⟩ := h
    simp only [writeMembers, memberTokens, List.cons_append, List.append_assoc]
    rw [tokens_mark rfl rfl, tokens_newline, tokens_quote hrules, tokens_colon,
      tokens_write hrules v hv, tokens_writeMembers hrules members hmembers]

end

/-- Blanks at the end leave no tokens. -/
theorem tokens_blanks {cs : List Char} (h : ∀ c ∈ cs, isSpace c = true) : tokens rules cs = [] := by
  induction cs with
  | nil => rw [tokens]
  | cons c cs ih =>
    rw [tokens_space (h c List.mem_cons_self), ih fun d hd => h d (List.mem_cons_of_mem c hd)]

/-- The tokens of a text that a value is rendered to, whatever blanks follow. -/
theorem tokens_render (hrules : rules.Faithful) {v : Json} (h : v.Textual) {blanks : String}
    (hblanks : ∀ c ∈ blanks.toList, isSpace c = true) :
    tokens rules (render (.plain indent) v ++ blanks).toList = toTokens v := by
  rw [render, String.toList_append, String.toList_ofList, tokens_write hrules v h,
    tokens_blanks hblanks, List.append_nil]

end

end Json
end EditorShell

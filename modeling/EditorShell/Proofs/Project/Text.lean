import EditorShell.Project.Text
import EditorShell.Proofs.Json.Read

/-!
# Project trees and their texts

A tree that is written gives the tree back when its text is read (`readElements_listToJson`), as long
as it is read at all. Each node is an object in a list, so it takes two levels of the nesting for
which the reader has a bound, and a text is read exactly if no node lies more than 100 nodes deep
(`parse_render`). The writer goes further than the reader: it has a bound of its own, at 253 nodes,
and between the two lie the trees that are written and not read again (`parse_write`). Both bounds
are reached by the trees of `nested`.
-/

namespace EditorShell
namespace ProjectNode

/-! ## The members of a node -/

section

variable (info : NodeInfo) (children : Option Json)

/-- A node is as textual as its children are. -/
theorem textual_members (h : ∀ v ∈ children, v.Textual) :
    (Json.object (members info children)).Textual := by
  obtain ⟨id, name, kind, content, mimeType⟩ := info
  cases content <;> cases children <;> cases mimeType <;>
    simp_all [members, member?, Json.Textual, Json.MembersTextual]

/-- A node is nested once more than its children are. -/
theorem nesting_members :
    (Json.object (members info children)).nesting = (children.map Json.nesting).getD 0 + 1 := by
  obtain ⟨id, name, kind, content, mimeType⟩ := info
  cases content <;> cases children <;> cases mimeType <;>
    simp [members, member?, Json.nesting, Json.membersNesting]

theorem ofJson_members_none : ofJson (.object (members info none)) = .ok (.leaf info) := by
  obtain ⟨id, name, kind, content, mimeType⟩ := info
  cases kind <;> cases content <;> cases mimeType <;> rfl

theorem ofJson_members_some {v : Json} {nodes : List ProjectNode}
    (h : readNodes? v = .ok (some nodes)) :
    ofJson (.object (members info (some v))) = .ok (.branch info nodes) := by
  obtain ⟨id, name, kind, content, mimeType⟩ := info
  cases kind <;> cases content <;> cases mimeType <;>
    simp [ofJson, members, member?, readMembers, h, ofMembers, requiredString, optionalString,
      kindOf, childrenOf, mimeTypeOf, Member.find?, NodeKind.text, Checked.under]

end

/-! ## Trees as values -/

mutual

theorem textual_toJson : ∀ node : ProjectNode, (toJson node).Textual
  | .leaf info => textual_members info none (by simp)
  | .branch info children => by
    refine textual_members info _ fun v hv => ?_
    cases hv
    exact textual_listToJson children

theorem textual_listToJson : ∀ nodes : List ProjectNode, Json.AllTextual (listToJson nodes)
  | [] => trivial
  | node :: nodes => ⟨textual_toJson node, textual_listToJson nodes⟩

end

mutual

/-- A node takes a level of nesting for its object, and another one for the list that it is in. -/
theorem nesting_toJson : ∀ node : ProjectNode, (toJson node).nesting + 1 = 2 * height node
  | .leaf info => by
    rw [toJson, nesting_members, height]
    rfl
  | .branch info children => by
    rw [toJson, nesting_members, Option.map_some, Option.getD_some, nesting_listToJson children,
      height]
    omega

theorem nesting_listToJson : ∀ nodes : List ProjectNode,
    (Json.array (listToJson nodes)).nesting = 2 * heightAll nodes
  | [] => rfl
  | node :: nodes => by
    have hnode := nesting_toJson node
    have hnodes := nestingAll_listToJson nodes
    rw [listToJson, Json.nesting, heightAll, hnodes]
    omega

theorem nestingAll_listToJson : ∀ nodes : List ProjectNode,
    Json.nestingAll (listToJson nodes) = 2 * heightAll nodes - 1
  | [] => rfl
  | node :: nodes => by
    have hnode := nesting_toJson node
    rw [listToJson, Json.nestingAll, nestingAll_listToJson nodes, heightAll]
    omega

end

mutual

theorem ofJson_toJson : ∀ node : ProjectNode, ofJson (toJson node) = .ok node
  | .leaf info => ofJson_members_none info
  | .branch info children => by
    refine ofJson_members_some info ?_
    rw [readNodes?, readElements_listToJson children]
    rfl

theorem readElements_listToJson : ∀ (nodes : List ProjectNode) (i : Nat),
    readElements i (listToJson nodes) = .ok nodes
  | [], _ => rfl
  | node :: nodes, i => by
    rw [listToJson, readElements, ofJson_toJson node, readElements_listToJson nodes]
    rfl

end

/-! ## Trees as texts -/

/-- The text of a tree, with any blanks after it, is read as the value that was written, unless the
tree is too deep. -/
theorem read_render_append (indent : Option Nat) (nodes : List ProjectNode) {blanks : String}
    (hblanks : ∀ c ∈ blanks.toList, Json.isSpace c = true) :
    Json.read .strict (render indent nodes ++ blanks) =
      if heightAll nodes ≤ 100 then .ok (.array (listToJson nodes)) else .error .malformed := by
  have hread := Json.read_render Json.Rules.faithful_strict rfl
    (v := .array (listToJson nodes)) (textual_listToJson nodes) indent hblanks
  have hbound : 2 * heightAll nodes ≤ 200 ↔ heightAll nodes ≤ 100 := by omega
  rw [render, hread, nesting_listToJson]
  simp only [hbound]

/-- So the tree is read again, or refused. -/
theorem parse_render_append (indent : Option Nat) (nodes : List ProjectNode) {blanks : String}
    (hblanks : ∀ c ∈ blanks.toList, Json.isSpace c = true) :
    parse (render indent nodes ++ blanks) =
      if heightAll nodes ≤ 100 then .ok nodes else Checked.fail .invalidJson := by
  rw [parse, read_render_append indent nodes hblanks]
  split_ifs
  · exact readElements_listToJson nodes 0
  · rfl

theorem parse_render (indent : Option Nat) (nodes : List ProjectNode) :
    parse (render indent nodes) =
      if heightAll nodes ≤ 100 then .ok nodes else Checked.fail .invalidJson := by
  have hparse := @parse_render_append indent nodes "" (by simp)
  rwa [String.append_empty] at hparse

/-! ## Trees that are written -/

/-- Under an indentation that is a machine word the bound on the nodes decides. -/
theorem write_eq {indent : Option Nat} (hindent : ∀ width ∈ indent, width < Nat.pow 2 63)
    (nodes : List ProjectNode) :
    write indent nodes =
      if heightAll nodes ≤ 253 then .ok (render indent nodes) else .error .tooDeep := by
  have hwidth : ¬largestIndent < indent.getD 0 := by
    cases indent with
    | none => decide
    | some width => exact Nat.not_lt.2 (Nat.le_sub_one_of_lt (hindent width rfl))
  rw [write, if_neg hwidth, ← ite_not]
  simp only [largestHeight, Nat.not_lt]

theorem write_wide {width : Nat} (h : Nat.pow 2 63 ≤ width) (nodes : List ProjectNode) :
    write (some width) nodes = .error (.wideIndent width) := by
  have hlargest : largestIndent < Nat.pow 2 63 := by decide
  rw [write, Option.getD_some, if_pos (Nat.lt_of_lt_of_le hlargest h)]

/-- **Reading undoes writing** for the trees in which no node lies more than 100 nodes deep, however
the text is indented and whatever the texts of the nodes are. A tree that is deeper, up to 253 nodes,
is written, but its text is refused when it is read. One that is deeper still is not written, and
under an indentation of 2 ^ 63 spaces or more no tree is. -/
theorem parse_write (nodes : List ProjectNode) :
    (∀ indent : Option Nat, (∀ width ∈ indent, width < Nat.pow 2 63) →
      (heightAll nodes ≤ 100 → ∃ text, write indent nodes = .ok text ∧ parse text = .ok nodes) ∧
      (100 < heightAll nodes → heightAll nodes ≤ 253 →
        ∃ text, write indent nodes = .ok text ∧ parse text = Checked.fail .invalidJson) ∧
      (253 < heightAll nodes → write indent nodes = .error .tooDeep)) ∧
    ∀ width, Nat.pow 2 63 ≤ width → write (some width) nodes = .error (.wideIndent width) := by
  refine ⟨fun indent hindent => ?_, fun width hwidth => write_wide hwidth nodes⟩
  have hparse := parse_render indent nodes
  rw [write_eq hindent]
  refine ⟨fun hread => ?_, fun hunread hwritten => ?_, fun hdeep => if_neg (Nat.not_le.2 hdeep)⟩
  · rw [if_pos hread] at hparse
    exact ⟨_, if_pos (by omega), hparse⟩
  · rw [if_neg (Nat.not_le.2 hunread)] at hparse
    exact ⟨_, if_pos hwritten, hparse⟩

/-- `n` folders, each in the one before it. -/
def nested : Nat → List ProjectNode
  | 0 => []
  | n + 1 => [.branch ⟨"d", "d", .folder, none, none⟩ (nested n)]

theorem heightAll_nested (n : Nat) : heightAll (nested n) = n := by
  induction n with
  | zero => rfl
  | succ n ih => rw [nested, heightAll, height, ih, heightAll, Nat.max_zero]

/-- The trees at both bounds and just beyond them. -/
theorem parse_write_nested :
    (∀ width ∈ some 2, width < Nat.pow 2 63) ∧
      (∃ text, write (some 2) (nested 100) = .ok text ∧ parse text = .ok (nested 100)) ∧
      (∃ text, write (some 2) (nested 101) = .ok text ∧
        parse text = Checked.fail .invalidJson) ∧
      (∃ text, write (some 2) (nested 253) = .ok text ∧
        parse text = Checked.fail .invalidJson) ∧
      write (some 2) (nested 254) = .error .tooDeep ∧
      write (some (Nat.pow 2 63)) [] = .error (.wideIndent (Nat.pow 2 63)) := by
  have hindent : ∀ width ∈ some 2, width < Nat.pow 2 63 := by simp
  have hall (n : Nat) := (parse_write (nested n)).1 (some 2) hindent
  simp only [heightAll_nested] at hall
  exact ⟨hindent, (hall 100).1 (by decide), (hall 101).2.1 (by decide) (by decide),
    (hall 253).2.1 (by decide) (by decide), (hall 254).2.2 (by decide),
    (parse_write []).2 (Nat.pow 2 63) (Nat.le_refl _)⟩

/-- **A tree can be too deep for its own text:** what is written for 101 folders in one another
is not read. -/
theorem not_parse_write :
    (∃ text, write none (nested 101) = .ok text ∧ parse text = Checked.fail .invalidJson) ∧
      ¬∀ (indent : Option Nat) (nodes : List ProjectNode),
        ∃ text, write indent nodes = .ok text ∧ parse text = .ok nodes := by
  have hwrite : write none (nested 101) = .ok (render none (nested 101)) := by
    rw [write_eq (by simp), heightAll_nested, if_pos (by decide)]
  have hparse : parse (render none (nested 101)) = Checked.fail .invalidJson := by
    rw [parse_render, heightAll_nested, if_neg (by decide)]
  refine ⟨⟨_, hwrite, hparse⟩, fun h => ?_⟩
  obtain ⟨text, htext, hread⟩ := h none (nested 101)
  rw [hwrite] at htext
  rw [← Except.ok.inj htext, hparse] at hread
  cases hread

end ProjectNode
end EditorShell

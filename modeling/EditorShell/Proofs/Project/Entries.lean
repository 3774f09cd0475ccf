import EditorShell.Path
import EditorShell.Project.Node

/-!
# What a project tree spells

A node stands for the path that the names above it and its own name spell. The `entries` of a tree
are these paths in the order of the nodes, each with what the tree says of it. Only a folder has
anything below it, so a tree is taken apart by `nodesBelow`, and `forest_induction` is the induction
that goes with it.
-/

namespace EditorShell

/-- A path, and what a tree says of it. -/
abbrev TreeEntry := String × NodeInfo

namespace ProjectNode

/-- The nodes below a node. A file has none, even if it has a list of children. -/
def nodesBelow : ProjectNode → List ProjectNode
  | .leaf _ => []
  | .branch info children =>
    match info.kind with
    | .folder => children
    | .file => []

theorem sizeOf_nodesBelow_lt (node : ProjectNode) : sizeOf node.nodesBelow < sizeOf node := by
  have hpos (info : NodeInfo) : 0 < sizeOf info := by
    cases info
    rw [NodeInfo.mk.sizeOf_spec]
    omega
  cases node with
  | leaf info =>
    have := hpos info
    simp only [nodesBelow, leaf.sizeOf_spec, List.nil.sizeOf_spec]
    omega
  | branch info children =>
    have := hpos info
    simp only [nodesBelow, branch.sizeOf_spec]
    split
    · omega
    · simp only [List.nil.sizeOf_spec]
      omega

theorem nodesBelow_eq_nil {node : ProjectNode} (h : node.info.kind = .file) :
    node.nodesBelow = [] := by
  cases node with
  | leaf info => rfl
  | branch info children => simp_all [nodesBelow, ProjectNode.info]

/-- Induction on forests: a forest starts with a node, and both what is below it and the rest are
smaller. -/
theorem forest_induction {P : List ProjectNode → Prop} (nil : P [])
    (cons : ∀ node nodes, P node.nodesBelow → P nodes → P (node :: nodes)) : ∀ nodes, P nodes
  | [] => nil
  | node :: nodes =>
    cons node nodes (forest_induction nil cons node.nodesBelow) (forest_induction nil cons nodes)
termination_by nodes => sizeOf nodes
decreasing_by
  · have := sizeOf_nodesBelow_lt node
    rw [List.cons.sizeOf_spec]
    omega
  · rw [List.cons.sizeOf_spec]
    omega

/-- What a node in the directory `parent` spells itself. -/
def entry (parent : String) (node : ProjectNode) : TreeEntry :=
  (Path.child parent node.info.name, node.info)

mutual

/-- What a node in the directory `parent` spells. -/
def entries (parent : String) : ProjectNode → List TreeEntry
  | .leaf info => [(Path.child parent info.name, info)]
  | .branch info children =>
    (Path.child parent info.name, info) ::
      match info.kind with
      | .folder => entriesAll (Path.child parent info.name) children
      | .file => []

/-- What a forest in the directory `parent` spells. -/
def entriesAll (parent : String) : List ProjectNode → List TreeEntry
  | [] => []
  | node :: nodes => entries parent node ++ entriesAll parent nodes

end

theorem entriesAll_eq_flatMap (parent : String) (nodes : List ProjectNode) :
    entriesAll parent nodes = nodes.flatMap (entries parent) := by
  induction nodes with
  | nil => simp [entriesAll]
  | cons node nodes ih => simp [entriesAll, ih]

/-- A node spells its own entry first, and then those below it. -/
theorem entries_eq (parent : String) (node : ProjectNode) :
    entries parent node =
      node.entry parent :: entriesAll (node.entry parent).1 node.nodesBelow := by
  cases node with
  | leaf i => simp [entries, entriesAll, entry, nodesBelow, info]
  | branch i children =>
    cases hkind : i.kind <;> simp [entries, entriesAll, entry, nodesBelow, info, hkind]

end ProjectNode

end EditorShell

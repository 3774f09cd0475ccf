/-!
# Project trees

The editor keeps a project as a forest of nodes, each a file or a folder. What a node is called for
is its kind alone: a file may carry children and a folder may carry a text, and both are ignored.
-/

namespace EditorShell

/-- What a node stands for. -/
inductive NodeKind where
  | file
  | folder
deriving DecidableEq, Repr, Inhabited

/-- What the editor knows of a node apart from its children. -/
structure NodeInfo where
  /-- The identity of the node in the editor. -/
  id : String
  name : String
  kind : NodeKind
  content : Option String
  mimeType : Option String
deriving DecidableEq, Repr, Inhabited

/-- A node of the project tree. -/
inductive ProjectNode where
  /-- A node without a list of children. -/
  | leaf (info : NodeInfo)
  /-- A node with a list of children, which may be empty. -/
  | branch (info : NodeInfo) (children : List ProjectNode)
deriving Repr, Inhabited

namespace ProjectNode

/-- The node apart from its children. -/
def info : ProjectNode → NodeInfo
  | .leaf info => info
  | .branch info _ => info

/-- The children; none if there is no list of them. -/
def children : ProjectNode → List ProjectNode
  | .leaf _ => []
  | .branch _ children => children

/-- The node stands for a folder. -/
def isFolder (node : ProjectNode) : Bool := node.info.kind = .folder

/-- An identity that is not empty, or else the given name. -/
def idOr (name : String) (id : Option String) : String :=
  match id with
  | some id => if id = "" then name else id
  | none => name

/-- A file node; without an identity it goes by its name. -/
def file (name : String) (content : Option String) (id mimeType : Option String) : ProjectNode :=
  .leaf ⟨idOr name id, name, .file, content, mimeType⟩

/-- A folder node; without an identity it goes by its name. -/
def folder (name : String) (children : List ProjectNode) (id : Option String) : ProjectNode :=
  .branch ⟨idOr name id, name, .folder, none, none⟩ children

end ProjectNode

/-! ## Equality of trees -/

mutual

/-- The trees are equal. -/
def ProjectNode.same : ProjectNode → ProjectNode → Bool
  | .leaf i, .leaf j => i == j
  | .branch i cs, .branch j ds => i == j && ProjectNode.sameAll cs ds
  | _, _ => false

/-- The forests are equal. -/
def ProjectNode.sameAll : List ProjectNode → List ProjectNode → Bool
  | [], [] => true
  | c :: cs, d :: ds => ProjectNode.same c d && ProjectNode.sameAll cs ds
  | _, _ => false

end

mutual

theorem ProjectNode.same_iff : ∀ a b : ProjectNode, a.same b = true ↔ a = b
  | .leaf i, .leaf j => by simp [ProjectNode.same]
  | .branch i cs, .branch j ds => by
    simp [ProjectNode.same, ProjectNode.sameAll_iff cs ds]
  | .leaf _, .branch _ _ => by simp [ProjectNode.same]
  | .branch _ _, .leaf _ => by simp [ProjectNode.same]

theorem ProjectNode.sameAll_iff : ∀ as bs : List ProjectNode,
    ProjectNode.sameAll as bs = true ↔ as = bs
  | [], [] => by simp [ProjectNode.sameAll]
  | a :: as, b :: bs => by
    simp [ProjectNode.sameAll, ProjectNode.same_iff a b, ProjectNode.sameAll_iff as bs]
  | [], _ :: _ => by simp [ProjectNode.sameAll]
  | _ :: _, [] => by simp [ProjectNode.sameAll]

end

instance : DecidableEq ProjectNode := fun a b =>
  decidable_of_iff (a.same b = true) (ProjectNode.same_iff a b)

end EditorShell

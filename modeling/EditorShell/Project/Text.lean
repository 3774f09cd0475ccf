import EditorShell.Json.Printer
import EditorShell.Json.Reader
import EditorShell.Project.Node
import EditorShell.Validation

/-!
# Project trees as text

A project file is a JSON list of nodes. Written, a node has the keys `id`, `name`, `type`,
`content`, `children` and `mimeType`, in this order and without those that have no value. A tree in
which too many nodes lie in one another is not written, and nor is any tree under an indentation
that is too wide. Read, a node may spell the last key `mime_type`, keys that are not known are passed
over, and all findings about a tree are reported together, in the order of the nodes and of these
keys.
-/

namespace EditorShell

/-- The kind as it is written. -/
def NodeKind.text : NodeKind → String
  | .file => "file"
  | .folder => "folder"

namespace ProjectNode

/-! ## Writing -/

/-- A member, if there is a value for it. -/
def member? (key : String) (value : Option Json) : List (String × Json) :=
  (value.map (key, ·)).toList

/-- The members of a node, given those for its children. -/
def members (info : NodeInfo) (children : Option Json) : List (String × Json) :=
  [("id", .string info.id), ("name", .string info.name), ("type", .string info.kind.text)] ++
    (member? "content" (info.content.map .string) ++ (member? "children" children ++
      member? "mimeType" (info.mimeType.map .string)))

mutual

/-- A node as a JSON value. -/
def toJson : ProjectNode → Json
  | .leaf info => .object (members info none)
  | .branch info children => .object (members info (some (.array (listToJson children))))

/-- A forest as the elements of a JSON list. -/
def listToJson : List ProjectNode → List Json
  | [] => []
  | node :: nodes => toJson node :: listToJson nodes

end

/-- A forest as text, on one line or indented. -/
def render (indent : Option Nat) (nodes : List ProjectNode) : String :=
  Json.render (.plain indent) (.array (listToJson nodes))

mutual

/-- How many nodes lie in one another at most, the node itself among them. -/
def height : ProjectNode → Nat
  | .leaf _ => 1
  | .branch _ children => heightAll children + 1

/-- How deep the deepest node of a forest lies, counted from one. -/
def heightAll : List ProjectNode → Nat
  | [] => 0
  | node :: nodes => max (height node) (heightAll nodes)

end

/-- The widest indentation that can be asked for. -/
def largestIndent : Nat := Nat.pow 2 63 - 1

/-- How deep a node can lie when it is written. The writer keeps count of the nodes that it is in,
so that it would not follow a circle for ever. -/
def largestHeight : Nat := 253

/-- Why a forest is not written. -/
inductive WriteError where
  | wideIndent (width : Nat)
  | tooDeep
deriving DecidableEq, Repr

/-- The error in words. A width that is no machine word is refused as a number, and a smaller one
when that many spaces are to be held. -/
def WriteError.message : WriteError → String
  | .wideIndent width =>
    if width < Nat.pow 2 64 then "capacity overflow" else "int too big to convert"
  | .tooDeep =>
    "Error serializing to JSON: ValueError: Circular reference detected (depth exceeded)"

/-- Writes a forest. The indentation is looked at first, even if there are no nodes. -/
def write (indent : Option Nat) (nodes : List ProjectNode) : Except WriteError String :=
  let width := indent.getD 0
  if largestIndent < width then .error (.wideIndent width)
  else if largestHeight < heightAll nodes then .error .tooDeep
  else .ok (render indent nodes)

/-! ## Reading -/

/-- A member with what its value gives when it is read as a list of children. -/
structure Member where
  key : String
  value : Json
  nodes : Checked (Option (List ProjectNode))

/-- The first member under `key`. -/
def Member.find? (key : String) (members : List Member) : Option Member :=
  members.find? (·.key = key)

/-- A text that must be there. -/
def requiredString (key : String) (members : List Member) : Checked String :=
  Checked.under (.key key) <|
    match Member.find? key members with
    | none => .fail .missing
    | some ⟨_, .string s, _⟩ => .ok s
    | some _ => .fail .notString

/-- A text, or nothing if its key is missing or has no value. -/
def optionalString (key : String) (members : List Member) : Checked (Option String) :=
  Checked.under (.key key) <|
    match Member.find? key members with
    | none => .ok none
    | some ⟨_, .null, _⟩ => .ok none
    | some ⟨_, .string s, _⟩ => .ok (some s)
    | some _ => .fail .notString

/-- The kind, which must be there. -/
def kindOf (members : List Member) : Checked NodeKind :=
  Checked.under (.key "type") <|
    match Member.find? "type" members with
    | none => .fail .missing
    | some ⟨_, .string "file", _⟩ => .ok .file
    | some ⟨_, .string "folder", _⟩ => .ok .folder
    | some _ => .fail .notAllowed

/-- The list of children, or nothing if its key is missing or has no value. -/
def childrenOf (members : List Member) : Checked (Option (List ProjectNode)) :=
  Checked.under (.key "children") <|
    match Member.find? "children" members with
    | none => .ok none
    | some member => member.nodes

/-- The type of the content, under either spelling. -/
def mimeTypeOf (members : List Member) : Checked (Option String) :=
  if (Member.find? "mimeType" members).isSome then optionalString "mimeType" members
  else optionalString "mime_type" members

/-- The node that members describe. -/
def ofMembers (members : List Member) : Checked ProjectNode :=
  let id := requiredString "id" members
  let name := requiredString "name" members
  let kind := kindOf members
  let content := optionalString "content" members
  let children := childrenOf members
  let mimeType := mimeTypeOf members
  match id, name, kind, content, children, mimeType with
  | .ok id, .ok name, .ok kind, .ok content, .ok none, .ok mimeType =>
    .ok (.leaf ⟨id, name, kind, content, mimeType⟩)
  | .ok id, .ok name, .ok kind, .ok content, .ok (some nodes), .ok mimeType =>
    .ok (.branch ⟨id, name, kind, content, mimeType⟩ nodes)
  | id, name, kind, content, children, mimeType =>
    .error (id.findings ++ name.findings ++ kind.findings ++ content.findings ++
      children.findings ++ mimeType.findings)

mutual

/-- The node that a JSON value describes. -/
def ofJson : Json → Checked ProjectNode
  | .object members => ofMembers (readMembers members)
  | _ => .fail .notObject

/-- Members, their values read as lists of children. -/
def readMembers : List (String × Json) → List Member
  | [] => []
  | (key, value) :: members => ⟨key, value, readNodes? value⟩ :: readMembers members

/-- A list of nodes, or nothing. -/
def readNodes? : Json → Checked (Option (List ProjectNode))
  | .null => .ok none
  | .array elements => (readElements 0 elements).map some
  | _ => .fail .notList

/-- The nodes of a list from position `i` on. -/
def readElements (i : Nat) : List Json → Checked (List ProjectNode)
  | [] => .ok []
  | v :: vs =>
    (Checked.both (Checked.under (.index i) (ofJson v)) (readElements (i + 1) vs)).map
      fun (node, nodes) => node :: nodes

end

/-- The forest that a JSON value describes. -/
def listOfJson : Json → Checked (List ProjectNode)
  | .array elements => readElements 0 elements
  | _ => .fail .notList

/-- The forest that a text writes. -/
def parse (text : String) : Checked (List ProjectNode) :=
  match Json.read .strict text with
  | .error _ => .fail .invalidJson
  | .ok v => listOfJson v

end ProjectNode
end EditorShell

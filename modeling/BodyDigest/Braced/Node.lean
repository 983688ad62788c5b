import BodyDigest.Braced.Tree

/-! Syntax trees of declarations, as far as members are found in them. -/
namespace BodyDigest.Braced

/-- What a node is. -/
inductive NodeKind where
  | namespaceBlock
  | namespaceLine
  | package
  | type
  | container
  | method
  | block
  | arrow
  | comment
  | parameter
  | spreadParameter
  | identifier
  | qualifiedName
  | modifiers
  | declarator
  | other
  deriving DecidableEq

/-- What a node is for its parent. -/
inductive Role where
  | name
  | body
  | parameters
  | type
  deriving DecidableEq

/-- What a node says of itself, its children apart. -/
structure Label where
  kind : NodeKind
  role : Option Role := none
  named : Bool := true
  text : Text
  line : Nat
  deriving DecidableEq

inductive Node where
  | mk (label : Label) (children : List Node)

namespace Node

def label : Node → Label
  | .mk l _ => l

def children : Node → List Node
  | .mk _ cs => cs

def kind (n : Node) : NodeKind := n.label.kind

def text (n : Node) : Text := n.label.text

/-- The first child in a role. -/
def inRole (r : Role) (n : Node) : Option Node := n.children.find? (·.label.role = some r)

def namedChildren (n : Node) : List Node := n.children.filter (·.label.named)

/-! ### Nodes of trees -/

def ofTrees (kind : NodeKind) (role : Option Role) (ts : List Tree) (children : List Node) : Node :=
  .mk ⟨kind, role, true, Tree.textOf ts, Tree.lineOf ts⟩ children

/-- A sign that stands for itself. -/
def unnamed (ts : List Tree) : Node := .mk ⟨.other, none, false, Tree.textOf ts, Tree.lineOf ts⟩ []

/-- The comments and directives before a token; blanks are no nodes. -/
def ofLead (t : Token) : List Node :=
  t.lead.filterMap fun
    | .blank _ => none
    | .comment c => some (.mk ⟨.comment, none, true, c, t.line⟩ [])
    | .directive _ shown _ => some (.mk ⟨.other, none, true, shown, t.line⟩ [])

def leadOf : List Tree → List Node
  | [] => []
  | t :: _ => ofLead t.first

/-- The nodes inside a group: `each` with what was skipped before it, and what was skipped before
the end. -/
def ofGroup (kind : NodeKind) (role : Option Role) (t : Tree) (each : List Node) : Node :=
  let atEnd := match t with
    | .leaf _ => []
    | .group _ _ closing => ofLead closing
  ofTrees kind role [t] (each ++ atEnd)

end Node

end BodyDigest.Braced

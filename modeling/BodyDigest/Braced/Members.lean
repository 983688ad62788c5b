import BodyDigest.Member
import BodyDigest.Braced.CSharp
import BodyDigest.Braced.Java

/-!
The members that a syntax tree declares. Methods are looked for in namespaces, types and the
containers inside them, and nowhere else.
-/
namespace BodyDigest.Braced

/-- How a file is read: its language, its path in locations, and the namespace of what stands in
none. -/
structure Reading where
  language : Language
  path : Text
  defaultScope : Text

/-- Where a member stands: its namespace and the innermost type around it. -/
structure Scope where
  space : Option Text := none
  type : Option Text := none
  deriving DecidableEq

/-- The name of a node, empty if it has none. -/
def Node.name (n : Node) : Text := ((n.inRole .name).map Node.text).getD []

/-- A namespace inside another one. -/
def joined (outer : Option Text) (name : Text) : Text :=
  match outer with
  | none | some [] => name
  | some scope => if name.isEmpty then scope else scope ++ "." ++ name

/-- White space inside of a type counts as one space. -/
def collapsed (t : Text) : Text := Text.join " " (Text.words t)

/-- Kinds that are not the type of a parameter. -/
def NodeKind.isBesideType : NodeKind → Bool
  | .modifiers | .identifier | .declarator => true
  | _ => false

/-- The type that a signature shows for a parameter. -/
def Node.shownType (param : Node) : Text :=
  match (param.inRole .type).or (param.namedChildren.find? (!·.kind.isBesideType)) with
  | none => "?"
  | some type =>
    let shown := collapsed type.text
    if param.kind = .spreadParameter then shown ++ "..." else shown

def NodeKind.isParameter : NodeKind → Bool
  | .parameter | .spreadParameter => true
  | _ => false

def Node.signature (method : Node) : Text :=
  let params := ((method.inRole .parameters).map Node.namedChildren).getD []
  let shown := (params.filter (·.kind.isParameter)).map Node.shownType
  method.name ++ "(" ++ Text.join ", " shown ++ ")"

/-- The texts of the children that are no comments. -/
def Node.parts (n : Node) : List Text :=
  (n.namedChildren.filter (·.kind ≠ .comment)).map Node.text

/-- The body that a child of a method gives it. -/
def bodyOf (language : Text) (n : Node) : Option Body :=
  match n.kind with
  | .block => some ⟨.statements, n.parts, language⟩
  | .arrow => n.parts.head?.map fun e => ⟨.expression, [e], language⟩
  | _ => none

def Scope.spaceOr (s : Scope) (default : Text) : Text :=
  match s.space with
  | none | some [] => default
  | some space => space

def describe (r : Reading) (s : Scope) (method : Node) : Descriptor where
  scope := some (s.spaceOr r.defaultScope)
  type := s.type
  member := method.name
  signature := method.signature
  body := method.children.findSome? (bodyOf r.language.name)
  location := some ⟨r.path, method.label.line⟩

/-- The namespace that the first part of a package declaration leaves in force. -/
def packageName (space : Option Text) (n : Node) : Option Text :=
  let names := n.namedChildren.filter fun c => c.kind = .identifier || c.kind = .qualifiedName
  (names.getLast?.map Node.text).or space

/-- The namespace in force behind a node. -/
def spaceBehind (space : Option Text) (n : Node) : Option Text :=
  match n.kind with
  | .namespaceLine => some (joined space n.name)
  | .package => packageName space n
  | _ => space

mutual

/-- The methods among neighbouring nodes and in what they contain. -/
def methodsIn (r : Reading) (s : Scope) : List Node → List Descriptor
  | [] => []
  | n :: rest => methods r s n ++ methodsIn r ⟨spaceBehind s.space n, s.type⟩ rest

def methods (r : Reading) (s : Scope) : Node → List Descriptor
  | .mk label children =>
    let n : Node := .mk label children
    match label.kind with
    | .namespaceBlock =>
      let inner : Scope := ⟨some (joined s.space n.name), s.type⟩
      (methodsInBody r inner children).getD (methodsIn r inner children)
    | .namespaceLine => methodsIn r ⟨some (joined s.space n.name), s.type⟩ children
    | .type =>
      if n.name.isEmpty then []
      else (methodsInBody r ⟨s.space, some n.name⟩ children).getD []
    | .container => methodsIn r s children
    | .method => [describe r s n]
    | _ => []

/-- The methods in the first node that is a body. -/
def methodsInBody (r : Reading) (s : Scope) : List Node → Option (List Descriptor)
  | [] => none
  | .mk label children :: rest =>
    if label.role = some .body then some (methodsIn r s children) else methodsInBody r s rest

end

def Language.file : Language → List Char → Node
  | .csharp => CSharp.file
  | .java => Java.file

/-- The descriptors of the members that a source declares. -/
def members (r : Reading) (source : List Char) : List Descriptor :=
  methodsIn r {} (r.language.file source).children

end BodyDigest.Braced

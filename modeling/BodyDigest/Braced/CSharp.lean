import BodyDigest.Braced.Node

/-! Declarations of C# files. What is no declaration of a member or type is passed over. -/
namespace BodyDigest.Braced.CSharp

open BodyDigest.Braced.Tree

/-! ### Types -/

/-- What follows the rest of a type. -/
def typeEnd : Nat → List Tree → List Tree
  | 0, ts => ts
  | _, [] => []
  | n + 1, t :: rest =>
    if t.isSign "?" || t.isSign "*" || t.isSquare then typeEnd n rest
    else if t.isSign "<" then
      match angled? 1 rest with
      | some more => typeEnd n more
      | none => t :: rest
    else if t.isSign "." || t.isSign "::" then
      match rest with
      | w :: more => if w.isName then typeEnd n more else t :: rest
      | [] => [t]
    else t :: rest

def typePrefixes : List Text := ["ref", "readonly"]

/-- What follows a type: a name with its parts, or a tuple. -/
def afterType? (ts : List Tree) : Option (List Tree) :=
  match ts.dropWhile (·.isOneOf typePrefixes) with
  | t :: rest => if t.isName || t.isParens then some (typeEnd rest.length rest) else none
  | [] => none

/-! ### Parameters -/

def parameterModifiers : List Text := ["ref", "out", "in", "this", "scoped", "readonly", "params"]

/-- Whether a tree may stand before the type of a parameter. -/
def beforeParameter (t : Tree) : Bool := t.isSquare || t.isOneOf parameterModifiers

def modifierNodes (ts : List Tree) : List Node :=
  ts.map fun t => .ofTrees .modifiers none [t] []

def nameNode (ts : List Tree) : Node := .ofTrees .identifier (some .name) ts []

/-- A default value is a node of its own. -/
def defaultNodes (ts : List Tree) : List Node :=
  if ts.isEmpty then [] else [.ofTrees .other none ts []]

/-- The parameter that `ts` is; without a type, the only name is that of the parameter. -/
def parameter (ts : List Tree) : Node :=
  let (lead, rest) := ts.span beforeParameter
  let children :=
    match afterType? rest with
    | some (name :: value) =>
      if name.isName then
        [Node.ofTrees .other (some .type) (before rest (name :: value)) [], nameNode [name]]
          ++ defaultNodes value
      else nameNode (before rest (name :: value)) :: defaultNodes (name :: value)
    | _ => [nameNode rest]
  let kind : NodeKind := if lead.any (·.isWord "params") then .other else .parameter
  .ofTrees kind none ts (modifierNodes lead ++ children)

/-- What follows the type and name of a parameter up to the comma behind it. -/
def parameterRest (ts : List Tree) : List Tree :=
  let rest := ts.dropWhile beforeParameter
  ((afterType? rest).getD rest).dropWhile fun t => !t.isSign ","

def parameterNodes : Nat → List Tree → List Node
  | 0, _ | _, [] => []
  | n + 1, ts =>
    let rest := parameterRest ts
    Node.leadOf ts ++ parameter (before ts rest) :: Node.leadOf rest ++ parameterNodes n (rest.drop 1)

def parameterList (t : Tree) : Node :=
  .ofGroup .other (some .parameters) t (parameterNodes t.inside.length t.inside)

/-! ### Statements -/

def localModifiers : List Text := ["static", "async", "unsafe", "extern"]

def afterSemicolon (ts : List Tree) : List Tree := behind (·.isSign ";") ts

/-- What follows the block of a function whose parameters end before `ts`, if it has a block. -/
def afterLocalBody? : List Tree → Option (List Tree)
  | [] => none
  | t :: rest =>
    if t.isBlock then some rest
    else if t.isWord "where" then
      match rest.dropWhile fun u => !(u.isBlock || u.isSign "=>" || u.isSign ";") with
      | u :: more => if u.isBlock then some more else none
      | [] => none
    else none

/-- What follows a function with a block inside a block. -/
def afterLocalFunction? (ts : List Tree) : Option (List Tree) :=
  let rest := ts.dropWhile fun t => t.isSquare || t.isOneOf localModifiers
  match rest.head?.any (·.isWord "new"), afterType? rest with
  | false, some (name :: more) =>
    if !name.isName then none
    else
      let more := match more with
        | t :: inner => if t.isSign "<" then (angled? 1 inner).getD more else more
        | [] => more
      match more with
      | t :: body => if t.isParens then afterLocalBody? body else none
      | [] => none
  | _, _ => none

/-- What follows the handlers of a `try` block. -/
def afterHandlers : Nat → List Tree → List Tree
  | 0, ts => ts
  | n + 1, ts =>
    match ts with
    | t :: rest =>
      if t.isWord "catch" || t.isWord "finally" then afterHandlers n (behind Tree.isBlock rest)
      else ts
    | [] => []

def headedStatements : List Text := ["for", "foreach", "while", "lock", "fixed", "using"]

def blockStatements : List Text := ["checked", "unchecked", "unsafe"]

/-- What follows the first statement. -/
def afterStatement : Nat → List Tree → List Tree
  | 0, ts => ts.drop 1
  | _, [] => []
  | n + 1, t :: rest =>
    let next (p : Tree → Bool) : Bool := rest.head?.any p
    if t.isBlock || t.isSign ";" then rest
    else if t.isWord "if" then
      match afterStatement n (rest.drop 1) with
      | e :: more => if e.isWord "else" then afterStatement n more else e :: more
      | [] => []
    else if t.isOneOf headedStatements && next Tree.isParens then afterStatement n (rest.drop 1)
    else if t.isWord "await" && next (·.isOneOf headedStatements) then afterStatement n rest
    else if t.isWord "do" then afterSemicolon (afterStatement n rest)
    else if t.isWord "switch" then behind Tree.isBlock rest
    else if t.isWord "try" then afterHandlers rest.length (behind Tree.isBlock rest)
    else if t.isOneOf blockStatements && next Tree.isBlock then rest.drop 1
    else if t.isName && next (·.isSign ":") then afterStatement n (rest.drop 1)
    else (afterLocalFunction? (t :: rest)).getD (afterSemicolon (t :: rest))

def statementNodes : Nat → List Tree → List Node
  | 0, _ | _, [] => []
  | n + 1, ts =>
    let rest := afterStatement ts.length ts
    Node.leadOf ts ++ .ofTrees .other none (before ts rest) [] :: statementNodes n rest

def block (t : Tree) : Node :=
  .ofGroup .block (some .body) t (statementNodes t.inside.length t.inside)

/-! ### Members -/

def memberModifiers : List Text :=
  ["public", "private", "protected", "internal", "static", "readonly", "sealed", "abstract",
    "virtual", "override", "extern", "partial", "async", "unsafe", "new", "volatile", "required",
    "const", "file"]

def beforeMember (t : Tree) : Bool := t.isSquare || t.isOneOf memberModifiers

/-- The name of a member, its parameters, and what follows them; what is written before the last
point belongs to an interface. -/
def methodName? : Nat → List Tree → Option (Tree × Tree × List Tree)
  | n + 1, name :: t :: rest =>
    if !name.isName || name.isWord "operator" then none
    else if t.isParens then some (name, t, rest)
    else if t.isSign "." || t.isSign "::" then methodName? n rest
    else if t.isSign "<" then
      match angled? 1 rest with
      | some (u :: more) =>
        if u.isParens then some (name, u, more)
        else if u.isSign "." then methodName? n more
        else none
      | _ => none
    else none
  | _, _ => none

/-- The body of a method and what follows it. -/
def methodBody (ts : List Tree) : List Node × List Tree :=
  match ts.dropWhile fun t => !(t.isBlock || t.isSign "=>" || t.isSign ";") with
  | t :: rest =>
    if t.isBlock then ([block t], rest)
    else if t.isSign "=>" then
      let value := rest.takeWhile fun u => !u.isSign ";"
      let children := Node.leadOf value ++ [.ofTrees .other none value []]
      ([.ofTrees .arrow (some .body) (t :: value) children], afterSemicolon rest)
    else ([], rest)
  | [] => ([], [])

/-- The method that `ts` starts with, and what follows it. -/
def method? (ts : List Tree) : Option (Node × List Tree) := do
  let rest := ts.dropWhile beforeMember
  let named ← afterType? rest
  let (name, params, behind) ← methodName? named.length named
  let (body, rest) := methodBody behind
  return (.ofTrees .method none (before ts rest) (nameNode [name] :: parameterList params :: body),
    rest)

/-- What follows a member without a body of its own to look into: a field, property, constructor
or the like. After an equals sign or arrow, only a semicolon ends it. -/
def afterMember (value : Bool) : List Tree → List Tree
  | [] => []
  | t :: rest =>
    if t.isSign ";" then rest
    else if t.isBlock && !value && !rest.head?.any (·.isSign "=") then rest
    else afterMember (value || t.isSign "=" || t.isSign "=>") rest

/-! ### Types and namespaces -/

def typeWords : List Text := ["class", "struct", "interface", "enum"]

/-- The name that a declaration of a type starts with, behind its modifiers. -/
def typeName? : List Tree → Option Tree
  | w :: name :: rest =>
    if w.isOneOf typeWords && name.isName then some name
    else if w.isWord "record" && name.isName then
      if name.isWord "class" || name.isWord "struct" then rest.head? else some name
    else none
  | _ => none

/-- What follows a group of declarations; a semicolon may close it too. -/
def withoutSemicolon : List Tree → List Tree
  | t :: rest => if t.isSign ";" then rest else t :: rest
  | [] => []

/-- The node of a named declaration that starts with `ts`; its block holds `inner`. -/
def blockNode (kind : NodeKind) (ts name fromBody : List Tree) (inner : List Node) :
    Node × List Tree :=
  match fromBody with
  | t :: rest =>
    if t.isBlock then
      (.ofTrees kind none (before ts rest) [nameNode name, .ofGroup .container (some .body) t inner],
        withoutSemicolon rest)
    else (.ofTrees kind none (before ts rest) [nameNode name], rest)
  | [] => (.ofTrees kind none ts [nameNode name], [])

def fromBody (ts : List Tree) : List Tree := ts.dropWhile fun t => !(t.isBlock || t.isSign ";")

def kindOfNamespace (body : List Tree) : NodeKind :=
  if body.head?.any Tree.isBlock then .namespaceBlock else .namespaceLine

/-- Declarations one after the other; at the top of a file, statements may stand among them. -/
def declarations (top : Bool) : Nat → List Tree → List Node
  | 0, _ | _, [] => []
  | n + 1, ts =>
    let rest := ts.dropWhile beforeMember
    let body := fromBody rest
    let inner := declarations false n ((body.head?.map Tree.inside).getD [])
    match typeName? rest, rest with
    | some name, w :: _ =>
      let members := if w.isWord "enum" then [] else inner
      let (node, more) := blockNode .type ts [name] body members
      node :: declarations top n more
    | none, w :: path =>
      if w.isWord "namespace" then
        let (node, more) := blockNode (kindOfNamespace body) ts (before path body) body inner
        node :: declarations top n more
      else if top then declarations top n (afterStatement ts.length ts)
      else
        match method? ts with
        | some (node, more) => node :: declarations top n more
        | none => declarations top n (afterMember false ts)
    | _, [] => []

end CSharp

/-- The syntax tree of a C# file. -/
def CSharp.file (cs : List Char) : Node :=
  let ts := Tree.ofTokens (Token.ofSource .csharp cs)
  .ofTrees .other none ts (CSharp.declarations true cs.length ts)

end BodyDigest.Braced

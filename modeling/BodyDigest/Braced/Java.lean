import BodyDigest.Braced.Node

/-! Declarations of Java files. What is no declaration of a member or type is passed over. -/
namespace BodyDigest.Braced.Java

open BodyDigest.Braced.Tree

/-! ### Annotations and modifiers -/

/-- What follows a name with its parts. -/
def afterName : Nat → List Tree → List Tree
  | n + 1, point :: w :: rest =>
    if point.isSign "." && w.isName then afterName n rest else point :: w :: rest
  | _, ts => ts

/-- What follows an annotation. -/
def afterAnnotation? : List Tree → Option (List Tree)
  | sign :: name :: rest =>
    if sign.isSign "@" && name.isName && !name.isWord "interface" then
      match afterName rest.length rest with
      | t :: more => if t.isParens then some more else some (t :: more)
      | [] => some []
    else none
  | _ => none

def modifierWords : List Text :=
  ["public", "protected", "private", "abstract", "static", "final", "strictfp", "default",
    "synchronized", "native", "transient", "volatile", "sealed"]

/-- What follows modifiers and annotations. -/
def afterModifiers : Nat → List Tree → List Tree
  | 0, ts => ts
  | _, [] => []
  | n + 1, t :: rest =>
    match afterAnnotation? (t :: rest) with
    | some more => afterModifiers n more
    | none =>
      if t.isOneOf modifierWords then afterModifiers n rest
      else
        match t.isWord "non", rest with
        | true, dash :: w :: more =>
          if dash.isSign "-" && w.isWord "sealed" then afterModifiers n more else t :: rest
        | _, _ => t :: rest

def withoutModifiers (ts : List Tree) : List Tree := afterModifiers ts.length ts

def modifierNodes (ts rest : List Tree) : List Node :=
  match before ts rest with
  | [] => []
  | lead => [.ofTrees .modifiers none lead []]

/-! ### Types -/

/-- What follows the rest of a type; annotations stand before its parts and its brackets. -/
def typeEnd : Nat → List Tree → List Tree
  | 0, ts => ts
  | _, [] => []
  | n + 1, t :: rest =>
    if t.isSquare then typeEnd n rest
    else if t.isSign "<" then
      match angled? 1 rest with
      | some more => typeEnd n more
      | none => t :: rest
    else if t.isSign "." then
      match withoutModifiers rest with
      | w :: more => if w.isName then typeEnd n more else t :: rest
      | [] => [t]
    else
      match afterAnnotation? (t :: rest) with
      | some more => typeEnd n more
      | none => t :: rest

def afterType? : List Tree → Option (List Tree)
  | t :: rest => if t.isName then some (typeEnd rest.length rest) else none
  | [] => none

/-! ### Parameters -/

def nameNode (ts : List Tree) : Node := .ofTrees .identifier (some .name) ts []

/-- The nodes of a parameter behind its modifiers. A receiver is no parameter. -/
def parameterParts (lead rest : List Tree) : NodeKind × List Node :=
  match afterType? rest with
  | none => (.other, [])
  | some named =>
    let type := before rest named
    match named with
    | t :: name =>
      if t.isSign "..." then
        let skipped := if lead.isEmpty then [] else Node.leadOf type
        (.spreadParameter, skipped ++ .ofTrees .other none type []
          :: Node.leadOf [t] ++ Node.leadOf name ++ [.ofTrees .declarator none name []])
      else if t.isWord "this" || name.any (·.isWord "this") then (.other, [])
      else (.parameter, [.ofTrees .other (some .type) type [], nameNode [t]])
    | [] => (.other, [])

def parameter (ts : List Tree) : Node :=
  let rest := withoutModifiers ts
  let (kind, parts) := parameterParts (before ts rest) rest
  .ofTrees kind none ts (modifierNodes ts rest ++ parts)

/-- The comma behind a parameter and what follows it. -/
def parameterRest (ts : List Tree) : List Tree :=
  let rest := withoutModifiers ts
  ((afterType? rest).getD rest).dropWhile fun t => !t.isSign ","

def parameterNodes : Nat → List Tree → List Node
  | 0, _ | _, [] => []
  | n + 1, ts =>
    let rest := parameterRest ts
    Node.leadOf ts ++ parameter (before ts rest) :: Node.leadOf rest ++ parameterNodes n (rest.drop 1)

def parameterList (t : Tree) : Node :=
  .ofGroup .other (some .parameters) t (parameterNodes t.inside.length t.inside)

/-! ### Statements -/

def typeWords : List Text := ["class", "interface", "enum"]

/-- The name that a declaration of a type starts with, behind its modifiers. -/
def typeName? : List Tree → Option Tree
  | w :: name :: rest =>
    if w.isOneOf typeWords && name.isName then some name
    else if w.isWord "record" && name.isName && rest.head?.any (fun t => t.isParens || t.isSign "<")
    then some name
    else none
  | _ => none

def afterSemicolon (ts : List Tree) : List Tree := behind (·.isSign ";") ts

/-- What follows the handlers of a `try` block. -/
def afterHandlers : Nat → List Tree → List Tree
  | 0, ts => ts
  | n + 1, ts =>
    match ts with
    | t :: rest =>
      if t.isWord "catch" || t.isWord "finally" then afterHandlers n (behind Tree.isBlock rest)
      else ts
    | [] => []

def headedStatements : List Text := ["for", "while", "synchronized"]

/-- What follows the first statement. A semicolon behind a `switch` belongs to it. -/
def afterStatement : Nat → List Tree → List Tree
  | 0, ts => ts.drop 1
  | _, [] => []
  | n + 1, t :: rest =>
    if t.isBlock || t.isSign ";" then rest
    else if t.isWord "if" then
      match afterStatement n (rest.drop 1) with
      | e :: more => if e.isWord "else" then afterStatement n more else e :: more
      | [] => []
    else if t.isOneOf headedStatements then afterStatement n (rest.drop 1)
    else if t.isWord "do" then afterSemicolon (afterStatement n rest)
    else if t.isWord "switch" then
      match behind Tree.isBlock rest with
      | s :: more => if s.isSign ";" then more else s :: more
      | [] => []
    else if t.isWord "try" then afterHandlers rest.length (behind Tree.isBlock rest)
    else if t.isName && rest.head?.any (·.isSign ":") then afterStatement n (rest.drop 1)
    else if (typeName? (withoutModifiers (t :: rest))).isSome then behind Tree.isBlock (t :: rest)
    else afterSemicolon (t :: rest)

/-- A semicolon alone is no statement. -/
def statement (ts : List Tree) : Node :=
  match ts with
  | [t] => if t.isSign ";" then .unnamed ts else .ofTrees .other none ts []
  | _ => .ofTrees .other none ts []

def statementNodes : Nat → List Tree → List Node
  | 0, _ | _, [] => []
  | n + 1, ts =>
    let rest := afterStatement ts.length ts
    Node.leadOf ts ++ statement (before ts rest) :: statementNodes n rest

def block (t : Tree) : Node :=
  .ofGroup .block (some .body) t (statementNodes t.inside.length t.inside)

/-! ### Members -/

/-- What follows the type parameters of a method. -/
def afterTypeParameters : List Tree → List Tree
  | t :: rest => if t.isSign "<" then (angled? 1 rest).getD (t :: rest) else t :: rest
  | [] => []

/-- The method that `ts` starts with, and what follows it. -/
def method? (ts : List Tree) : Option (Node × List Tree) := do
  let rest := afterTypeParameters (withoutModifiers ts)
  match ← afterType? (withoutModifiers rest) with
  | name :: params :: behind =>
    if name.isName && params.isParens then
      let nodes := [nameNode [name], parameterList params]
      match behind.dropWhile fun t => !(t.isBlock || t.isSign ";") with
      | t :: rest =>
        let body := if t.isBlock then [block t] else []
        return (.ofTrees .method none (before ts rest) (nodes ++ body), rest)
      | [] => return (.ofTrees .method none ts nodes, [])
    else none
  | _ => none

/-- What follows a member without a body of its own to look into. After an equals sign, only a
semicolon ends it. -/
def afterMember (value : Bool) : List Tree → List Tree
  | [] => []
  | t :: rest =>
    if t.isSign ";" then rest
    else if t.isBlock && !value then rest
    else afterMember (value || t.isSign "=") rest

/-- The declarations of an enumeration follow the first semicolon among its constants. -/
def enumMembers (ts : List Tree) : List Tree := ts.dropWhile fun t => !t.isSign ";"

def annotationType (ts : List Tree) : Bool :=
  match ts with
  | sign :: w :: _ => sign.isSign "@" && w.isWord "interface"
  | _ => false

/-- Declarations one after the other; at the top of a file, statements may stand among them. -/
def declarations (top : Bool) : Nat → List Tree → List Node
  | 0, _ | _, [] => []
  | n + 1, ts =>
    let rest := withoutModifiers ts
    match typeName? rest, rest with
    | some name, w :: _ =>
      match rest.dropWhile fun t => !(t.isBlock || t.isSign ";") with
      | t :: more =>
        let members :=
          if w.isWord "enum" then
            let inner := enumMembers t.inside
            [.ofTrees .container none inner (declarations false n inner)]
          else declarations false n t.inside
        .ofTrees .type none (before ts more)
          [nameNode [name], .ofGroup .other (some .body) t members] :: declarations top n more
      | [] => []
    | none, w :: path =>
      if annotationType rest then declarations top n (behind Tree.isBlock rest)
      else if w.isWord "package" && top then
        let more := path.dropWhile fun t => !t.isSign ";"
        let kind : NodeKind := if path.tail.head?.any (·.isSign ".") then .qualifiedName else .identifier
        .ofTrees .package none (before ts more) [.ofTrees kind none (before path more) []]
          :: declarations top n (more.drop 1)
      else
        match method? ts with
        | some (node, more) => node :: declarations top n more
        | none =>
          declarations top n (if top then afterStatement ts.length ts else afterMember false ts)
    | _, [] => []

end Java

/-- The syntax tree of a Java file. -/
def Java.file (cs : List Char) : Node :=
  let ts := Tree.ofTokens (Token.ofSource .java cs)
  .ofTrees .other none ts (Java.declarations true cs.length ts)

end BodyDigest.Braced

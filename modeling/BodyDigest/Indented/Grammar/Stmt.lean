import BodyDigest.Indented.Grammar.Pattern

/-! Reading statements, each with its place. -/
namespace BodyDigest.Indented

/-- Where a statement stands, where its first decorator starts, and, of a statement that assigns a
lambda, the span of the lambda's body. -/
structure Place where
  span : Span
  decorator : Option Pos := none
  lambdaBody : Option Span := none

namespace Grammar

mutual

/-- What may be deleted. -/
def isDeletable : Expr → Bool
  | .name _ | .attribute _ _ | .subscript _ _ => true
  | .tuple es => areDeletable es
  | .list es => areDeletable es
  | _ => false

def areDeletable : List Expr → Bool
  | [] => true
  | e :: rest => isDeletable e && areDeletable rest

end

/-- Names joined by points, on fuel. -/
def dottedName : Nat → Reader Text
  | 0 => failure
  | n + 1 => do
    let id ← name
    if ← takes (.op ".") then return id ++ "." ++ (← dottedName n) else return id

def otherName : Reader (Option Text) := do
  if ← takes (.keyword "as") then return some (← name) else return none

def moduleAliases : Nat → Reader (List Alias)
  | 0 => failure
  | n + 1 => do
    let a : Alias := ⟨← dottedName n, ← otherName⟩
    if ← takes (.op ",") then return a :: (← moduleAliases n) else return [a]

/-- Imported names; only between parentheses may a comma follow the last one. -/
def nameAliases (fuel : Nat) (enclosed : Bool) : Reader (List Alias) :=
  match fuel with
  | 0 => failure
  | n + 1 => do
    let a : Alias := ⟨← name, ← otherName⟩
    if ← takes (.op ",") then
      if enclosed && (← sees (.op ")")) then return [a] else return a :: (← nameAliases n enclosed)
    else return [a]

/-- The points before the name of a module. -/
def leadingDots : Nat → Reader Nat
  | 0 => failure
  | n + 1 => do
    if ← takes (.op ".") then return (← leadingDots n) + 1
    else if ← takes (.op "...") then return (← leadingDots n) + 3
    else return 0

def importFrom (n : Nat) : Reader Simple := do
  let level ← leadingDots n
  let module ←
    if 0 < level && (← sees (.keyword "import")) then pure none
    else pure (some (← dottedName n))
  expect (.keyword "import")
  if ← takes (.op "*") then return .importsFrom level module [⟨"*", none⟩]
  else if ← takes (.op "(") then
    let names ← nameAliases n true
    expect (.op ")")
    return .importsFrom level module names
  else return .importsFrom level module (← nameAliases n false)

def nameList : Nat → Reader (List Text)
  | 0 => failure
  | n + 1 => do
    let id ← name
    if ← takes (.op ",") then return id :: (← nameList n) else return [id]

def deleteTargets : Nat → Reader (List Expr)
  | 0 => failure
  | n + 1 => do
    let e ← primary n
    if !isDeletable e.expr then failure
    else if ← takes (.op ",") then
      if ← seesExpression then return e.expr :: (← deleteTargets n) else return [e.expr]
    else return [e.expr]

/-- The right side of an assignment. -/
def assigned (n : Nat) : Reader Located := do
  if ← sees (.keyword "yield") then yieldExpression n else elements n

/-- What follows the first target of an assignment and its sign: more targets, and the value. -/
def assignment (fuel : Nat) (targets : List Expr) : Reader (Simple × Option Span) :=
  match fuel with
  | 0 => failure
  | n + 1 => do
    let e ← assigned n
    if ← takes (.op "=") then
      if isTarget e.expr then assignment n (targets ++ [e.expr]) else failure
    else return (.assign targets e.expr, e.body)

def assignmentOp? : Lexeme → Option BinaryOp
  | .op s => BinaryOp.ofAssignment? s
  | _ => none

/-- A statement that starts with an expression. -/
def expressionStatement (n : Nat) : Reader (Simple × Option Span) := do
  if ← sees (.keyword "yield") then
    let e ← yieldExpression n
    return (.expression e.expr, none)
  else
    let enclosed ← sees (.op "(")
    let e ← elements n
    if ← takes (.op ":") then
      if !isSingleTarget e.expr then failure
      else
        let hint ← expression n
        let bare := match e.expr with
          | .name _ => !enclosed
          | _ => false
        if ← takes (.op "=") then
          let v ← assigned n
          return (.annotated e.expr hint.expr (some v.expr) bare, v.body)
        else return (.annotated e.expr hint.expr none bare, none)
    else if ← takes (.op "=") then
      if isTarget e.expr then assignment n [e.expr] else failure
    else match (← peek).bind assignmentOp? with
    | some op =>
      let _ ← advance
      if !isSingleTarget e.expr then failure
      else
        let v ← assigned n
        return (.augmented e.expr op v.expr, none)
    | none => return (.expression e.expr, none)

/-- A statement without a block, and the span of the body of a lambda that it assigns. -/
def simple (n : Nat) : Reader (Simple × Option Span) := do
  if ← takes (.keyword "pass") then return (.pass, none)
  else if ← takes (.keyword "break") then return (.break, none)
  else if ← takes (.keyword "continue") then return (.continue, none)
  else if ← takes (.keyword "return") then
    if ← seesElement then
      let e ← elements n
      return (.return (some e.expr), none)
    else return (.return none, none)
  else if ← takes (.keyword "raise") then
    if ← seesExpression then
      let e ← expression n
      if ← takes (.keyword "from") then
        let c ← expression n
        return (.raise (some e.expr) (some c.expr), none)
      else return (.raise (some e.expr) none, none)
    else return (.raise none none, none)
  else if ← takes (.keyword "global") then return (.global (← nameList n), none)
  else if ← takes (.keyword "nonlocal") then return (.nonlocal (← nameList n), none)
  else if ← takes (.keyword "del") then return (.delete (← deleteTargets n), none)
  else if ← takes (.keyword "assert") then
    let t ← expression n
    if ← takes (.op ",") then
      let m ← expression n
      return (.assert t.expr (some m.expr), none)
    else return (.assert t.expr none, none)
  else if ← takes (.keyword "import") then return (.imports (← moduleAliases n), none)
  else if ← takes (.keyword "from") then return (← importFrom n, none)
  else expressionStatement n

def spanSince (start : Pos) : Reader Span := do return ⟨start, ← behind⟩

/-- The statements of one line, and its end. -/
def simpleLine : Nat → Reader (List (Stmt Place))
  | 0 => failure
  | n + 1 => do
    let start ← here
    let (form, body) ← simple n
    let s : Stmt Place := .simple { span := ← spanSince start, lambdaBody := body } form
    if ← takes (.op ";") then
      if ← takes .newline then return [s] else return s :: (← simpleLine n)
    else
      expect .newline
      return [s]

def withItem (n : Nat) : Reader WithItem := do
  let e ← expression n
  if ← takes (.keyword "as") then
    let t ← target n
    return ⟨e.expr, some t.expr⟩
  else return ⟨e.expr, none⟩

def withItems (fuel : Nat) (enclosed : Bool) : Reader (List WithItem) :=
  match fuel with
  | 0 => failure
  | n + 1 => do
    let item ← withItem n
    if ← takes (.op ",") then
      if enclosed && (← sees (.op ")")) then return [item]
      else return item :: (← withItems n enclosed)
    else return [item]

/-- The items of a `with` up to its colon; where it can, a parenthesis encloses all of them. -/
def withHead (n : Nat) : Reader (List WithItem) := fun c =>
  let enclosed : Reader (List WithItem) := do
    expect (.op "(")
    let items ← withItems n true
    expect (.op ")")
    expect (.op ":")
    return items
  match enclosed c with
  | some r => some r
  | none => (do
    let items ← withItems n false
    expect (.op ":")
    return items : Reader (List WithItem)) c

/-- The subject of a `match` up to its first case. -/
def matchHead (n : Nat) : Reader Expr := do
  expect (.soft "match")
  let start ← here
  let starred ← sees (.op "*")
  let first ← namedElement n
  let subject ←
    if ← sees (.op ",") then
      let rest ← moreNamedElements n
      since start (.tuple (first.expr :: rest))
    else if starred then failure
    else pure first
  expect (.op ":")
  expect .newline
  expect .indent
  if ← sees (.soft "case") then return subject.expr else failure

def decorators : Nat → Reader (List Located)
  | 0 => failure
  | n + 1 => do
    if ← takes (.op "@") then
      let e ← namedExpression n
      expect .newline
      return e :: (← decorators n)
    else return []

mutual

/-- The statements of a block behind its colon. -/
def block : Nat → Reader (List (Stmt Place))
  | 0 => failure
  | n + 1 => do
    if ← takes .newline then
      expect .indent
      let first ← statement n
      return first ++ (← moreStatements n)
    else simpleLine n

/-- Statements up to the end of their block. -/
def moreStatements : Nat → Reader (List (Stmt Place))
  | 0 => failure
  | n + 1 => do
    if ← takes .dedent then return []
    else
      let s ← statement n
      return s ++ (← moreStatements n)

/-- One statement with blocks, or a line of statements without. -/
def statement : Nat → Reader (List (Stmt Place))
  | 0 => failure
  | n + 1 => do
    let start ← here
    match ← peek with
    | some (.op "@") =>
      let ds ← decorators n
      return [← definition n ds]
    | some (.keyword "def") => return [← definition n []]
    | some (.keyword "class") => return [← definition n []]
    | some (.keyword "async") =>
      match ← peekSecond with
      | some (.keyword "def") => return [← definition n []]
      | some (.keyword "for") =>
        let _ ← advance
        return [← forStatement n start true]
      | some (.keyword "with") =>
        let _ ← advance
        return [← withStatement n start true]
      | _ => failure
    | some (.keyword "for") => return [← forStatement n start false]
    | some (.keyword "with") => return [← withStatement n start false]
    | some (.keyword "if") => return [← ifStatement n]
    | some (.keyword "while") =>
      let _ ← advance
      let test ← namedExpression n
      expect (.op ":")
      let body ← block n
      let otherwise ← elseBlock n
      return [.while { span := ← spanSince start } test.expr body otherwise]
    | some (.keyword "try") => return [← tryStatement n]
    | some (.soft "match") =>
      let c ← get
      match matchHead n c with
      | some (subject, c) =>
        set c
        let cs ← cases n
        return [.match { span := ← spanSince start } subject cs]
      | none => simpleLine n
    | _ => simpleLine n

/-- A function or class behind its decorators. -/
def definition (fuel : Nat) (ds : List Located) : Reader (Stmt Place) :=
  match fuel with
  | 0 => failure
  | n + 1 => do
    let start ← here
    let decorator := ds.head?.map (·.span.start)
    let exprs := ds.map (·.expr)
    if ← takes (.keyword "class") then
      let id ← name
      let (bases, named) ←
        if ← takes (.op "(") then
          let r ← arguments n .positional
          expect (.op ")")
          pure r
        else pure ([], [])
      expect (.op ":")
      let body ← block n
      return .class { span := ← spanSince start, decorator := decorator } ⟨id, bases, named, exprs⟩
        body
    else
      let async ← takes (.keyword "async")
      expect (.keyword "def")
      let id ← name
      expect (.op "(")
      let ps ← parameters n true {}
      expect (.op ")")
      let returns ←
        if ← takes (.op "->") then
          let e ← expression n
          pure (some e.expr)
        else pure none
      expect (.op ":")
      let body ← block n
      return .function { span := ← spanSince start, decorator := decorator }
        ⟨async, id, ps, returns, exprs⟩ body

def forStatement (fuel : Nat) (start : Pos) (async : Bool) : Reader (Stmt Place) :=
  match fuel with
  | 0 => failure
  | n + 1 => do
    expect (.keyword "for")
    let t ← targets n
    expect (.keyword "in")
    let iterable ← elements n
    expect (.op ":")
    let body ← block n
    let otherwise ← elseBlock n
    return .for { span := ← spanSince start } async t.expr iterable.expr body otherwise

def withStatement (fuel : Nat) (start : Pos) (async : Bool) : Reader (Stmt Place) :=
  match fuel with
  | 0 => failure
  | n + 1 => do
    expect (.keyword "with")
    let items ← withHead n
    let body ← block n
    return .with { span := ← spanSince start } async items body

/-- An `if` or `elif` with all that follows it. -/
def ifStatement : Nat → Reader (Stmt Place)
  | 0 => failure
  | n + 1 => do
    let start ← here
    let _ ← advance
    let test ← namedExpression n
    expect (.op ":")
    let body ← block n
    let otherwise ←
      if ← sees (.keyword "elif") then
        let s ← ifStatement n
        pure [s]
      else elseBlock n
    return .if { span := ← spanSince start } test.expr body otherwise

def elseBlock : Nat → Reader (List (Stmt Place))
  | 0 => failure
  | n + 1 => do
    if ← takes (.keyword "else") then
      expect (.op ":")
      block n
    else return []

def tryStatement : Nat → Reader (Stmt Place)
  | 0 => failure
  | n + 1 => do
    let start ← here
    expect (.keyword "try")
    expect (.op ":")
    let body ← block n
    let star := (← peekSecond) == some (.op "*")
    let hs ← handlers n star
    let otherwise ← if hs.isEmpty then pure [] else elseBlock n
    let final ←
      if ← takes (.keyword "finally") then
        expect (.op ":")
        block n
      else pure []
    if hs.isEmpty && final.isEmpty then failure
    else return .try { span := ← spanSince start } (star && !hs.isEmpty) body hs otherwise final

/-- Handlers, all starred or none. -/
def handlers (fuel : Nat) (star : Bool) : Reader (List (Handler Place)) :=
  match fuel with
  | 0 => failure
  | n + 1 => do
    if ← takes (.keyword "except") then
      let starred ← takes (.op "*")
      if starred != star then failure
      else
        let (type, id) ←
          if !star && (← sees (.op ":")) then pure (none, none)
          else
            let e ← expression n
            let id ← if ← takes (.keyword "as") then pure (some (← name)) else pure none
            pure (some e.expr, id)
        expect (.op ":")
        let body ← block n
        return .mk type id body :: (← handlers n star)
    else return []

/-- The cases of a `match` up to the end of its block. -/
def cases : Nat → Reader (List (Case Place))
  | 0 => failure
  | n + 1 => do
    if ← takes .dedent then return []
    else
      expect (.soft "case")
      let p ← patterns n
      let guard ←
        if ← takes (.keyword "if") then
          let e ← namedExpression n
          pure (some e.expr)
        else pure none
      expect (.op ":")
      let body ← block n
      return .mk p guard body :: (← cases n)

end

/-- All statements of a module. -/
def module : Nat → Reader (List (Stmt Place))
  | 0 => failure
  | n + 1 => do
    if (← peek).isNone then return []
    else
      let s ← statement n
      return s ++ (← module n)

end Grammar

end BodyDigest.Indented

import BodyDigest.Indented.Render.Expr

/-!
Canonical text of statements: one line each, four spaces for each enclosing block, and an empty
line before every function and class but a first one.
-/
namespace BodyDigest.Indented.Render

def indentation (depth : Nat) : Text := List.replicate (4 * depth) (.char ' ')

def importedName (a : Alias) : Text :=
  match a.renamed with
  | none => a.name
  | some other => a.name ++ " as " ++ other

def importedNames (names : List Alias) : Text := commaSeparated (names.map importedName)

def prefixed (lead : Text) : Option Text → Text
  | none => []
  | some t => lead ++ t

def withItems : List WithItem → Except RenderError (List Text)
  | [] => .ok []
  | item :: rest => do
    let c ← expr false Level.test item.context
    let t ← optional false item.target
    return (c ++ prefixed " as " t) :: (← withItems rest)

/-- Targets of an assignment, each with its sign. -/
def targets : List Expr → Except RenderError Text
  | [] => .ok []
  | t :: rest => return (← expr false Level.tuple t) ++ " = " ++ (← targets rest)

def isName : Expr → Bool
  | .name _ => true
  | _ => false

def simple : Simple → Except RenderError Text
  | .expression value => expr false Level.yield value
  | .assign ts value => return (← targets ts) ++ (← expr false Level.test value)
  | .augmented target op value => do
    let t ← expr false Level.test target
    return t ++ " " ++ op.symbol ++ "= " ++ (← expr false Level.test value)
  | .annotated target hint value bare => do
    let t ← expr false Level.test target
    let a ← expr false Level.test hint
    let v ← optional false value
    return parenthesizedIf (!bare && isName target) t ++ ": " ++ a ++ prefixed " = " v
  | .return value => return ("return" : Text) ++ prefixed " " (← optional false value)
  | .raise exception cause => do
    let e ← optional false exception
    let c ← optional false cause
    return ("raise" : Text) ++ prefixed " " e ++ prefixed " from " c
  | .delete ts => return ("del " : Text) ++ commaSeparated (← exprs false Level.test ts)
  | .assert test message => do
    let t ← expr false Level.test test
    return ("assert " : Text) ++ t ++ prefixed ", " (← optional false message)
  | .imports names => return ("import " : Text) ++ importedNames names
  | .importsFrom level module names =>
    let dots : Text := List.replicate level (.char '.')
    return ("from " : Text) ++ dots ++ module.getD [] ++ (" import " : Text) ++ importedNames names
  | .global names => return ("global " : Text) ++ commaSeparated names
  | .nonlocal names => return ("nonlocal " : Text) ++ commaSeparated names
  | .pass => return "pass"
  | .break => return "break"
  | .continue => return "continue"

mutual

def pattern (level : Level) : Pattern → Except RenderError Text
  | .value e => expr false Level.test e
  | .singleton c => constant false c
  | .sequence ps => return bracketed (commaSeparated (← patterns Level.test ps))
  | .star name => return .char '*' :: name.getD "_"
  | .mapping keys ps rest => do
    let ks ← exprs false Level.test keys
    let vs ← patterns Level.test ps
    let double : List Text := match rest with
      | some r => [("**" : Text) ++ r]
      | none => []
    let pairs : List Text := ks.zipWith (fun (k v : Text) => k ++ ": " ++ v) vs
    return braced (commaSeparated (pairs ++ double))
  | .object type ps names named => do
    let t ← expr false Level.atom type
    let positional ← patterns Level.test ps
    let values ← patterns Level.test named
    let shown : List Text := names.zipWith (fun (n v : Text) => n ++ "=" ++ v) values
    return t ++ parenthesized (commaSeparated (positional ++ shown))
  | .wildcard => return "_"
  | .capture name => return name
  | .binding inner name => do
    let p ← pattern Level.bitOr inner
    return parenthesizedIf (Level.test < level) (p ++ " as " ++ name)
  | .alternatives ps => do
    let shown ← patterns (Level.next Level.bitOr) ps
    return parenthesizedIf (Level.bitOr < level) (Text.join " | " shown)

def patterns (level : Level) : List Pattern → Except RenderError (List Text)
  | [] => .ok []
  | p :: rest => return (← pattern level p) :: (← patterns level rest)

end

def decoratorLines (depth : Nat) (decorators : List Expr) : Except RenderError (List Text) :=
  return (← exprs false Level.test decorators).map fun d => indentation depth ++ "@" ++ d

/-- The empty line, decorators and first line of a function. -/
def functionHead (depth : Nat) (head : FunctionHead) : Except RenderError (List Text) := do
  let ds ← decoratorLines depth head.decorators
  let ps ← params false head.params
  let r ← optional false head.returns
  let lead : Text := if head.async then "async def " else "def "
  return [] :: ds ++ [indentation depth ++ lead ++ head.name ++ parenthesized ps
    ++ prefixed " -> " r ++ ":"]

def classHead (depth : Nat) (head : ClassHead) : Except RenderError (List Text) := do
  let ds ← decoratorLines depth head.decorators
  let bs ← exprs false Level.test head.bases
  let ks ← keywords false head.keywords
  let all := bs ++ ks
  let shown := if all.isEmpty then [] else parenthesized (commaSeparated all)
  return [] :: ds ++ [indentation depth ++ "class " ++ head.name ++ shown ++ ":"]

/-- The statement's text when it documents the block that it starts. -/
def documentation? {P : Type} : Stmt P → Option (Text × Bool)
  | .simple _ (.expression (.constant (.text t marked))) => some (t, marked)
  | _ => none

mutual

/-- The lines of a statement at a depth of blocks. -/
def stmt {P : Type} (depth : Nat) : Stmt P → Except RenderError (List Text)
  | .simple _ form => return [indentation depth ++ (← simple form)]
  | .function _ head body => return (← functionHead depth head) ++ (← suite (depth + 1) body)
  | .class _ head body => return (← classHead depth head) ++ (← suite (depth + 1) body)
  | .if _ test body otherwise => do
    let t ← expr false Level.test test
    let b ← stmts (depth + 1) body
    return (indentation depth ++ "if " ++ t ++ ":") :: b ++ (← alternative depth otherwise)
  | .while _ test body otherwise => do
    let t ← expr false Level.test test
    let b ← stmts (depth + 1) body
    return (indentation depth ++ "while " ++ t ++ ":") :: b ++ (← block depth "else" otherwise)
  | .for _ async target iterable body otherwise => do
    let t ← expr false Level.tuple target
    let i ← expr false Level.test iterable
    let b ← stmts (depth + 1) body
    let lead : Text := if async then "async for " else "for "
    return (indentation depth ++ lead ++ t ++ " in " ++ i ++ ":") :: b
      ++ (← block depth "else" otherwise)
  | .with _ async entries body => do
    let shown ← withItems entries
    let lead : Text := if async then "async with " else "with "
    return (indentation depth ++ lead ++ commaSeparated shown ++ ":")
      :: (← stmts (depth + 1) body)
  | .try _ star body hs otherwise final => do
    let b ← stmts (depth + 1) body
    let h ← handlers depth star hs
    let o ← block depth "else" otherwise
    return (indentation depth ++ "try:") :: b ++ h ++ o ++ (← block depth "finally" final)
  | .match _ subject cs => do
    let s ← expr false Level.test subject
    return (indentation depth ++ "match " ++ s ++ ":") :: (← cases (depth + 1) cs)

def stmts {P : Type} (depth : Nat) : List (Stmt P) → Except RenderError (List Text)
  | [] => .ok []
  | s :: rest => return (← stmt depth s) ++ (← stmts depth rest)

/-- A body that a documenting text may start. -/
def suite {P : Type} (depth : Nat) : List (Stmt P) → Except RenderError (List Text)
  | [] => .ok []
  | s :: rest => do
    let first ← match documentation? s with
      | some (t, marked) => pure [indentation depth ++ documentation t marked]
      | none => stmt depth s
    return first ++ (← stmts depth rest)

/-- A block under a keyword, nothing when it is empty. -/
def block {P : Type} (depth : Nat) (keyword : Text) :
    List (Stmt P) → Except RenderError (List Text)
  | [] => .ok []
  | s :: rest => do
    let first ← stmt (depth + 1) s
    return (indentation depth ++ keyword ++ ":") :: first ++ (← stmts (depth + 1) rest)

/-- What follows the body of an `if`; a lone `if` there continues the chain. -/
def alternative {P : Type} (depth : Nat) : List (Stmt P) → Except RenderError (List Text)
  | [] => .ok []
  | [.if _ test body otherwise] => do
    let t ← expr false Level.test test
    let b ← stmts (depth + 1) body
    return (indentation depth ++ "elif " ++ t ++ ":") :: b ++ (← alternative depth otherwise)
  | s :: rest => do
    let first ← stmt (depth + 1) s
    return (indentation depth ++ "else:") :: first ++ (← stmts (depth + 1) rest)

def handlers {P : Type} (depth : Nat) (star : Bool) :
    List (Handler P) → Except RenderError (List Text)
  | [] => .ok []
  | .mk type name body :: rest => do
    let t ← optional false type
    let b ← stmts (depth + 1) body
    let lead : Text := if star then "except*" else "except"
    return (indentation depth ++ lead ++ prefixed " " t ++ prefixed " as " name ++ ":") :: b
      ++ (← handlers depth star rest)

def cases {P : Type} (depth : Nat) : List (Case P) → Except RenderError (List Text)
  | [] => .ok []
  | .mk p guard body :: rest => do
    let shown ← pattern Level.test p
    let g ← optional false guard
    let b ← stmts (depth + 1) body
    return (indentation depth ++ "case " ++ shown ++ prefixed " if " g ++ ":") :: b
      ++ (← cases depth rest)

end

/-- Lines as one text, without an empty first line. -/
def joinLines : List Text → Text
  | [] :: rest => Text.join "\n" rest
  | ls => Text.join "\n" ls

/-- Text of a statement on its own. -/
def statement {P : Type} (s : Stmt P) : Except RenderError Text := return joinLines (← stmt 0 s)

/-- Text of a module, which a documenting text may start. -/
def module {P : Type} (body : List (Stmt P)) : Except RenderError Text :=
  return joinLines (← suite 0 body)

/-- Text of an expression on its own. -/
def expression (e : Expr) : Except RenderError Text := expr false Level.test e

end BodyDigest.Indented.Render

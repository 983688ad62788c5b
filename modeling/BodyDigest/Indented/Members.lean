import BodyDigest.Canonical
import BodyDigest.Indented.Slice

/-!
The members that a Python module declares: functions, and lambdas assigned to a name in a class.
They are looked for in classes, in the branches of conditionals, and in the blocks of a plain
`try`, but in no other statement.
-/
namespace BodyDigest.Indented

/-- A declared member inside the innermost class, if any. -/
inductive Declared (P : Type) where
  | function (type : Option Text) (place : P) (head : FunctionHead) (body : List (Stmt P))
  | lambda (type : Text) (place : P) (name : Text) (params : Params)

/-- The lambda that a statement assigns to one plain name. -/
def assignedLambda? : Simple → Option (Text × Params)
  | .assign [.name id] (.lambda params _) => some (id, params)
  | .annotated (.name id) _ (some (.lambda params _)) _ => some (id, params)
  | _ => none

mutual

/-- The members declared by a statement inside `type`. -/
def declared {P : Type} (type : Option Text) : Stmt P → List (Declared P)
  | .class _ head body => declaredIn (some head.name) body
  | .function place head body => [.function type place head body]
  | .simple place form =>
    match type, assignedLambda? form with
    | some t, some (name, params) => [.lambda t place name params]
    | _, _ => []
  | .if _ _ body otherwise => declaredIn type body ++ declaredIn type otherwise
  | .try _ false body handlers otherwise final =>
    declaredIn type body ++ declaredIn type otherwise ++ declaredIn type final
      ++ declaredInHandlers type handlers
  | _ => []

def declaredIn {P : Type} (type : Option Text) : List (Stmt P) → List (Declared P)
  | [] => []
  | s :: rest => declared type s ++ declaredIn type rest

def declaredInHandlers {P : Type} (type : Option Text) : List (Handler P) → List (Declared P)
  | [] => []
  | .mk _ _ body :: rest => declaredIn type body ++ declaredInHandlers type rest

end

/-- Why a source has no list of members. -/
inductive MembersError where
  | source (e : SourceError)
  | render (e : RenderError)
  | slice (e : Utf8.DecodeError)
  deriving DecidableEq

def Param.hint : Param → Option Expr
  | .mk _ h _ => h

/-- The type that a signature shows for a parameter. -/
def shownType (p : Param) : Except RenderError Text :=
  match Param.hint p with
  | none => .ok "Any"
  | some e => Render.expression e

/-- A member's name with the types of its parameters; the first one is left out of a member that
gets its object there. -/
def signature (name : Text) (implicitFirst : Bool) : Params → Except RenderError Text
  | .mk positional regular rest keywordOnly keywords => do
    let all := positional ++ regular
    let shown ← (if implicitFirst then all.drop 1 else all).mapM shownType
    let star ← rest.toList.mapM fun p => return .char '*' :: (← shownType p)
    let named ← keywordOnly.mapM shownType
    let double ← keywords.toList.mapM fun p => return ("**" : Text) ++ (← shownType p)
    return name ++ Render.parenthesized
      (Render.commaSeparated (shown ++ star ++ named ++ double))

/-- The last name of a decorator that is a name or an attribute. -/
def decoratorName : Expr → Text
  | .name id => id
  | .attribute _ id => id
  | _ => []

def isStatic (head : FunctionHead) : Bool :=
  head.decorators.any fun d => decoratorName d = ("staticmethod" : Text)

def isEllipsis {P : Type} : Stmt P → Bool
  | .simple _ (.expression (.constant .ellipsis)) => true
  | _ => false

/-- The statements that make up a body: a documenting text may be left out, and a lone ellipsis is
no body. -/
def bodyStatements {P : Type} (ignoreDocumentation : Bool) (body : List (Stmt P)) :
    List (Stmt P) :=
  let kept := match body with
    | s :: rest => if ignoreDocumentation && (Render.documentation? s).isSome then rest else body
    | [] => []
  match kept with
  | [s] => if isEllipsis s then [] else kept
  | _ => kept

def Stmt.place {P : Type} : Stmt P → P
  | .simple p _ | .function p _ _ | .class p _ _ | .if p _ _ _ | .while p _ _ _
  | .for p _ _ _ _ _ | .with p _ _ _ | .try p _ _ _ _ _ | .match p _ _ => p

/-- The source text of a body, statement by statement. -/
def statementsBody (lines : List (List UInt8)) (kept : List (Stmt Place)) :
    Except Utf8.DecodeError (Option Body) :=
  match kept with
  | [] => .ok none
  | _ => do
    let fragments ← kept.mapM fun s => Slice.ofPlace lines s.place
    return some ⟨.statements, fragments, Canonical.python⟩

/-- How a source of members is read. -/
structure Reading where
  scope : Text
  path : Text
  ignoreDocumentation : Bool

def describe (r : Reading) (lines : List (List UInt8)) :
    Declared Place → Except MembersError Descriptor
  | .function type place head body => do
    let shown ← (signature head.name (type.isSome && !isStatic head) head.params).mapError .render
    let kept := bodyStatements r.ignoreDocumentation body
    let body ← (statementsBody lines kept).mapError .slice
    return ⟨some r.scope, type, head.name, shown, body, some ⟨r.path, place.span.start.line⟩⟩
  | .lambda type place name params => do
    let shown ← (signature name true params).mapError .render
    let fragment ← (Slice.ofSpan lines (place.lambdaBody.getD place.span)).mapError .slice
    let body : Body := ⟨.expression, [fragment], Canonical.python⟩
    return ⟨some r.scope, some type, name, shown, some body, some ⟨r.path, place.span.start.line⟩⟩

/-- The descriptors of the members of a Python module. -/
def members (r : Reading) (source : Text) : Except MembersError (List Descriptor) := do
  let cs ← (sourceChars source).mapError .source
  let body ← (moduleOf cs).mapError .source
  let lines := Lines.ofOctets (Utf8.encode cs)
  (declaredIn none body).mapM (describe r lines)

end BodyDigest.Indented

import BodyDigest.Emit.Names
import BodyDigest.Indented.Render.Stmt
import BodyDigest.Text.Compatible.Basic

/-!
What a source declares: the names that its statements bind, the constants of its classes, and the
attributes of these classes once they are created.
-/
namespace BodyDigest

/-- The name that is bound where an identifier is written, its compatible composed form. -/
def Text.composed (t : Text) : Text := Text.ofChars ((Text.compatible t).filterMap CodePoint.char?)

namespace Indented

/-! ### Names that are bound -/

mutual

/-- Literals, names, and calls of them with arguments by place; evaluating one binds no name. -/
def bindsNothing : Expr → Bool
  | .constant _ | .name _ => true
  | .attribute e _ => bindsNothing e
  | .tuple es | .list es => allBindNothing es
  | .dict items => itemsBindNothing items
  | .call f as [] => bindsNothing f && allBindNothing as
  | _ => false

def allBindNothing : List Expr → Bool
  | [] => true
  | e :: rest => bindsNothing e && allBindNothing rest

def itemsBindNothing : List Item → Bool
  | [] => true
  | .pair key value :: rest => bindsNothing key && bindsNothing value && itemsBindNothing rest
  | .unpack e :: rest => bindsNothing e && itemsBindNothing rest

end

/-- The name of a class that has neither bases nor keywords nor decorators. -/
def ClassHead.plainName? : ClassHead → Option Text
  | ⟨name, [], [], []⟩ => some name
  | _ => none

/-- The names that a simple statement binds; not known for every statement. -/
def Simple.bound? : Simple → Option (List Text)
  | .assign [.name id] value => if bindsNothing value then some [id] else none
  | .importsFrom _ _ names =>
    if names.any (·.name = "*") then none else some (names.map fun a => a.renamed.getD a.name)
  | _ => none

/-- The names that a statement binds in its own scope. -/
def boundBy? {P : Type} : Stmt P → Option (List Text)
  | .simple _ form => form.bound?
  | .class _ head _ => head.plainName?.map fun name => [name]
  | _ => none

/-- The names that statements bind, in order. -/
def boundIn? {P : Type} : List (Stmt P) → Option (List Text)
  | [] => some []
  | s :: rest => do return (← boundBy? s) ++ (← boundIn? rest)

/-! ### Classes of constants -/

/-- What the body of a class binds to a name: a text, or a class. -/
inductive Held where
  | constant (value : Text)
  | class (members : List (Text × Held))

/-- A name and the text that is assigned to it. -/
def Simple.constant? : Simple → Option (Text × Text)
  | .assign [.name id] (.constant (.text t _)) => some (id, t)
  | _ => none

mutual

/-- The name that a statement binds, and what it binds to it, where it does nothing else. -/
def held? {P : Type} : Stmt P → Option (Text × Held)
  | .simple _ form => form.constant?.map fun (id, t) => (id, .constant t)
  | .class _ head body => do return (← head.plainName?, .class (← heldIn? body))
  | _ => none

def heldIn? {P : Type} : List (Stmt P) → Option (List (Text × Held))
  | [] => some []
  | s :: rest => do return (← held? s) :: (← heldIn? rest)

end

/-- What a class holds behind its documentation. -/
def documentedClass? {P : Type} : Stmt P → Option (Text × Held)
  | .class _ head (s :: body) => do
    if (Render.documentation? s).isSome then
      return (← head.plainName?, .class (← heldIn? body))
    else none
  | _ => none

mutual

/-- The constants below, each behind the names that lead to it. -/
def Held.places : Held → List (List Text × Text)
  | .constant value => [([], value)]
  | .class members => placesIn members

def placesIn : List (Text × Held) → List (List Text × Text)
  | [] => []
  | (id, h) :: rest => h.places.map (fun p => (id :: p.1, p.2)) ++ placesIn rest

end

/-- The constant that names lead to, where the last binding of a name replaces those before. -/
def Held.at? : List Text → Held → Option Text
  | [], .constant value => some value
  | name :: path, .class members => (members.reverse.lookup name).bind (at? path)
  | _, _ => none

/-! ### Attributes -/

/-- A name that is changed inside a class. -/
def isPrivate (name : Text) : Bool := Emit.startsPrivate name && !Emit.endsPrivate name

/-- A private name behind the name of its class, unless this one is made of underscores. -/
def mangled (owner name : Text) : Text :=
  let bare := owner.dropWhile (· = Emit.underscore)
  if isPrivate name && !bare.isEmpty then Emit.underscore :: bare ++ name else name

/-- Names that cannot be bound in a class, or of which the creation of a class takes its own use. -/
def claimedNames : List Text := ["__debug__", "__classcell__", "__slots__"]

/-- Attributes of a class that its metaclass answers, whatever the class binds to them. -/
def answeredNames : List Text :=
  ["__name__", "__qualname__", "__dict__", "__class__", "__bases__", "__base__", "__mro__",
    "__basicsize__", "__itemsize__", "__flags__", "__dictoffset__", "__weakrefoffset__",
    "__text_signature__"]

/-- Names under which an attribute that is bound in a class is not found again. -/
def isIntercepted (name : Text) : Bool :=
  Emit.isKeyword name || isPrivate name || claimedNames.contains name || answeredNames.contains name

mutual

/-- What is created of what is bound to a name; nothing where a class binds a claimed name. -/
def Held.created? (name : Text) : Held → Option Held
  | .constant value => some (.constant value)
  | .class members => (createdIn? name members).map .class

/-- The attributes of the class `owner`, private ones under their changed names. -/
def createdIn? (owner : Text) : List (Text × Held) → Option (List (Text × Held))
  | [] => some []
  | (name, h) :: rest => do
    if claimedNames.contains name then none
    else return (mangled owner name, ← h.created? name) :: (← createdIn? owner rest)

end

/-- The constant that attributes lead to, unless a metaclass answers one of them. -/
def Held.attributeAt? (h : Held) (path : List Text) : Option Text :=
  if path.any answeredNames.contains then none else h.at? path

end Indented

end BodyDigest

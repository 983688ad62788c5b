import BodyDigest.Registry
import BodyDigest.Emit.Names
import BodyDigest.Text.Quoted

/-!
What is emitted of a registry: its keys in increasing order, each with the attribute that it gets.
No view exists where an attribute would be no identifier or would be taken twice.
-/
namespace BodyDigest.Emit

structure MemberView where
  name : Text
  key : Text
  stamp : Stamp

structure TypeView where
  name : Text
  key : Text
  members : List MemberView

structure ContainerView where
  name : Text
  key : Text
  types : List TypeView

/-- What an attribute is for. -/
inductive Subject where
  | scope (key : Text)
  | type (scope key : Text)
  | member (scope type key : Text)
  deriving DecidableEq

def Subject.label : Subject → Text
  | .scope key => ("namespace " : Text) ++ Text.quoted key
  | .type ns key => ("type " : Text) ++ ns ++ "." ++ key
  | .member ns owner key => ("member " : Text) ++ ns ++ "." ++ owner ++ "." ++ key

/-- Why a registry cannot be emitted. -/
inductive EmissionError where
  | badRoot (name : Text)
  | notIdentifier (subject : Subject) (name : Text)
  | taken (subject : Subject) (name holder : Text)
  deriving DecidableEq

def EmissionError.message : EmissionError → Text
  | .badRoot name => ("Root class name " : Text) ++ Text.quoted name ++ " is not a valid identifier"
  | .notIdentifier subject name =>
    subject.label ++ " renders to " ++ Text.quoted name ++ ", which is not a valid identifier"
  | .taken subject name holder =>
    subject.label ++ " renders to " ++ Text.quoted name ++ ", already used by " ++ Text.quoted holder

/-- Checks the attribute `name` for `subject` against those of its elder siblings. -/
def claim (subject : Subject) (name : Text) (taken : List (Text × Text)) :
    Except EmissionError Unit :=
  if !name.isIdentifier then .error (.notIdentifier subject name)
  else match taken.lookup name with
    | some holder => .error (.taken subject name holder)
    | none => .ok ()

def sortedKeys (keys : List Text) : List Text := (distinct keys).mergeSort Text.le

/-- The views of one type's members, behind those in `done`. -/
def memberViews (scope type : Text) (entries : List Entry) (done : List MemberView) :
    List Text → Except EmissionError (List MemberView)
  | [] => .ok []
  | key :: rest => do
    let name := staticName key
    claim (.member scope type key) name (done.map fun v => (v.name, v.key))
    match entries.find? fun e => e.key.member = key with
    | none => memberViews scope type entries done rest
    | some e =>
      let view : MemberView := ⟨name, key, e.stamp⟩
      return view :: (← memberViews scope type entries (view :: done) rest)

def typeViews (scope : Text) (entries : List Entry) (done : List TypeView) :
    List Text → Except EmissionError (List TypeView)
  | [] => .ok []
  | key :: rest => do
    let name := staticName key
    claim (.type scope key) name (done.map fun v => (v.name, v.key))
    let mine := entries.filter fun e => e.key.type = key
    let members ← memberViews scope key mine [] (sortedKeys (mine.map (·.key.member)))
    let view : TypeView := ⟨name, key, members⟩
    return view :: (← typeViews scope entries (view :: done) rest)

def containerViews (entries : List Entry) (done : List ContainerView) :
    List Text → Except EmissionError (List ContainerView)
  | [] => .ok []
  | key :: rest => do
    let name := containerName key
    claim (.scope key) name (done.map fun v => (v.name, v.key))
    let mine := entries.filter fun e => e.key.scope = key
    let types ← typeViews key mine [] (sortedKeys (mine.map (·.key.type)))
    let view : ContainerView := ⟨name, key, types⟩
    return view :: (← containerViews entries (view :: done) rest)

def views (r : Registry) : Except EmissionError (List ContainerView) :=
  containerViews r.entries [] (sortedKeys (r.entries.map (·.key.scope)))

/-- The attributes under the root class that lead to a key's digest. -/
def attributePath (k : Key) : List Text :=
  [containerName k.scope, staticName k.type, staticName k.member]

def checkRoot (root : Text) : Except EmissionError Unit :=
  if root.isIdentifier && !isKeyword root then .ok () else .error (.badRoot root)

end BodyDigest.Emit

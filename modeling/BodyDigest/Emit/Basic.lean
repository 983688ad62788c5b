import BodyDigest.Emit.Source
import BodyDigest.Emit.Template

/-!
Emission of a registry: a text of constants, a text that rebuilds the registry, and a module of
both. Templates of a user take the place of the texts of the same name.
-/
namespace BodyDigest.Emit

/-- The files of a user's templates by their names. -/
abbrev Templates := List (Text × List UInt8)

/-- Why nothing is emitted. -/
inductive EmitError where
  | registry (e : EmissionError)
  | template (e : Template.Fault)
  deriving DecidableEq

def EmitError.message : EmitError → Text
  | .registry e => e.message
  | .template .malformed => "malformed template"
  | .template (.notFound name) => name
  | .template (.encoding e) => e.message

def staticPage : Text := "static.py.j2"

def runtimePage : Text := "runtime.py.j2"

def modulePage : Text := "module.py.j2"

def memberValue (m : MemberView) : Template.Value :=
  .record [("name", .text m.name), ("key", .text m.key), ("digest", .text m.stamp.digest),
    ("signature", .text m.stamp.signature)]

def typeValue (t : TypeView) : Template.Value :=
  .record [("name", .text t.name), ("type_name", .text t.key),
    ("members", .list (t.members.map memberValue))]

def containerValue (c : ContainerView) : Template.Value :=
  .record [("name", .text c.name), ("namespace", .text c.key),
    ("types", .list (c.types.map typeValue))]

/-- What is to be emitted. -/
structure Subjects where
  root : Text
  count : Nat
  containers : List ContainerView

def Subjects.scope (s : Subjects) : Template.Scope :=
  [("root_class", .text s.root), ("containers", .list (s.containers.map containerValue)),
    ("member_count", .number s.count)]

/-- Templates that include one another deeper than this are refused. -/
def maxInclusion : Nat := 64

/-- A page by its name: a user's template, or the text that stands for it. -/
def page (templates : Templates) (s : Subjects) :
    Nat → Template.Scope → Text → Except Template.Fault Text
  | 0, _, _ => .error .malformed
  | n + 1, scope, name =>
    match templates.lookup name with
    | some octets => do
      let nodes ← Template.parse (← (Utf8.decode octets).mapError .encoding)
      Template.writeNodes (page templates s n) scope nodes
    | none =>
      if name = staticPage then .ok (staticText s.root s.containers)
      else if name = runtimePage then .ok (runtimeText s.containers)
      else if name = modulePage then do
        let runtime ← page templates s n scope runtimePage
        let static ← page templates s n scope staticPage
        return moduleText s.root s.count runtime static
      else .error (.notFound name)

/-- A page without the blanks at its end, closed by one line feed. -/
def finished (templates : Templates) (s : Subjects) (name : Text) : Except EmitError Text :=
  match page templates s maxInclusion s.scope name with
  | .ok t => .ok (t.trimRight ++ [.char '\n'])
  | .error e => .error (.template e)

/-- The emitted texts. -/
structure Artifacts where
  static : Text
  runtime : Text
  module : Text

def subjects (root : Text) (r : Registry) : Except EmitError Subjects := do
  (checkRoot root).mapError .registry
  return ⟨root, r.size, ← (views r).mapError .registry⟩

def emit (templates : Templates) (root : Text) (r : Registry) : Except EmitError Artifacts := do
  let s ← subjects root r
  return ⟨← finished templates s staticPage, ← finished templates s runtimePage,
    ← finished templates s modulePage⟩

/-- The constants of the emitted classes with their keys. -/
def constants (containers : List ContainerView) : List (Key × Text) :=
  containers.flatMap fun c => c.types.flatMap fun t => t.members.map fun m =>
    (⟨c.key, t.key, m.key⟩, m.stamp.digest)

end BodyDigest.Emit

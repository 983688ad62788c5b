import BodyDigest.Indented.Value

/-!
Stamps kept in three levels: namespaces with their types, types with their members, members with
their stamps. Every level keeps its names in the order in which they came first. A registry is
written out in this form and read back from it.
-/
namespace BodyDigest

/-- What is kept under names, in the order in which the names came first. -/
abbrev Named (α : Type) := List (Text × α)

namespace Named

variable {α : Type}

def names (m : Named α) : List Text := m.map (·.1)

/-- What is under a name, or the name that is unknown. -/
def find (m : Named α) (name : Text) : Except Text α :=
  match m.lookup name with
  | some a => .ok a
  | none => .error name

/-- Changes what is under a name. A new name comes last, with what `change` makes of `fresh`. -/
def alter (name : Text) (fresh : α) (change : α → α) : Named α → Named α
  | [] => [(name, change fresh)]
  | (n, a) :: rest =>
    if n = name then (n, change a) :: rest else (n, a) :: alter name fresh change rest

/-- Whether two levels keep alike things under the same names, in whatever order. -/
def same (alike : α → α → Bool) (m n : Named α) : Bool :=
  m.length = n.length && m.all fun p => (n.lookup p.1).any (alike p.2)

end Named

abbrev Nested := Named (Named (Named Stamp))

namespace Nested

/-- The stamp of a key, or the part of the key that is unknown. -/
def lookup (n : Nested) (k : Key) : Except Text Stamp := do
  let types ← Named.find n k.scope
  let members ← Named.find types k.type
  Named.find members k.member

/-- Puts a stamp under a key; levels that are not there yet are made. -/
def put (n : Nested) (e : Entry) : Nested :=
  Named.alter e.key.scope []
    (Named.alter e.key.type [] (Named.alter e.key.member e.stamp fun _ => e.stamp)) n

/-- Puts a stamp under a new key. -/
def add (n : Nested) (e : Entry) : Except Collision Nested :=
  match n.lookup e.key with
  | .ok old => .error ⟨e.key.scope, e.key.type, [old.signature, e.stamp.signature]⟩
  | .error _ => .ok (n.put e)

/-- All entries, level by level. -/
def members (n : Nested) : List Entry :=
  n.flatMap fun scope => scope.2.flatMap fun type => type.2.map fun member =>
    ⟨⟨scope.1, type.1, member.1⟩, member.2⟩

def scopeCount (n : Nested) : Nat := n.length

def typeCount (n : Nested) : Nat := n.foldr (fun scope count => scope.2.length + count) 0

/-- Whether two nested mappings are equal, in whatever order they were filled. -/
def same (m n : Nested) : Bool := Named.same (Named.same (Named.same fun a b => a = b)) m n

/-- A stamp as a mapping of its two parts. -/
def stampValue (s : Stamp) : Indented.Value :=
  .dict [(.text "digest", .text s.digest), (.text "signature", .text s.signature)]

def level {α : Type} (value : α → Indented.Value) (m : Named α) : Indented.Value :=
  .dict (m.map fun p => (.text p.1, value p.2))

def toValue (n : Nested) : Indented.Value := level (level (level stampValue)) n

end Nested

namespace Registry

/-- The entries of a registry in a plain nested copy. -/
def toNested (r : Registry) : Nested := r.members.foldl Nested.put []

/-- Whether the nested copies of two registries are equal. -/
def equals (r s : Registry) : Bool := r.toNested.same s.toNested

end Registry

end BodyDigest

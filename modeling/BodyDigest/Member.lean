import BodyDigest.Text.CodePoint

/-! Members of types as sources describe them, and what is recorded of them. -/
namespace BodyDigest

/-- Where a member was declared. -/
structure Location where
  path : Text
  line : Int
  deriving DecidableEq

inductive BodyKind where
  | statements
  | expression
  | other (name : Text)
  deriving DecidableEq

/-- The source of a body, cut into statements or given as one expression. -/
structure Body where
  kind : BodyKind
  fragments : List Text
  language : Text
  deriving DecidableEq

/-- A member as it was found; its namespace and type may be unknown. -/
structure Descriptor where
  scope : Option Text
  type : Option Text
  member : Text
  signature : Text
  body : Option Body := none
  location : Option Location := none
  deriving DecidableEq

/-- A member with the digest of its body, and the name that it is registered under. -/
structure Record where
  scope : Text
  type : Text
  member : Text
  resolved : Text
  signature : Text
  digest : Text
  location : Option Location := none
  deriving DecidableEq

/-- What the registry holds of a member. -/
structure Stamp where
  digest : Text
  signature : Text
  deriving DecidableEq

def isGiven (t : Option Text) : Bool := t.any (!·.isEmpty)

/-- Whether a descriptor names its namespace, type and member. -/
def Descriptor.isPlaced (d : Descriptor) : Bool :=
  isGiven d.scope && isGiven d.type && !d.member.isEmpty

/-- The namespace and type in which a record's name has to be unique. -/
def Record.group (r : Record) : Text × Text := (r.scope, r.type)

end BodyDigest

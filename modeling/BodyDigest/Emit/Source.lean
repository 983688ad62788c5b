import BodyDigest.Emit.Views

/-! The source texts that are emitted when no template replaces them. -/
namespace BodyDigest.Emit

def line (indent : Nat) (t : Text) : Text :=
  List.replicate indent (.char ' ') ++ t ++ [.char '\n']

def openBrace : Text := [.char '\x7b']

def closeBrace : Text := [.char '\x7d']

def constantLine (m : MemberView) : Text := line 12 (m.name ++ " = " ++ Text.quoted m.stamp.digest)

def typeClass (t : TypeView) : Text :=
  ("\n" : Text) ++ line 8 (("class " : Text) ++ t.name ++ ":") ++ t.members.flatMap constantLine

def containerClass (c : ContainerView) : Text :=
  ("\n" : Text) ++ line 4 (("class " : Text) ++ c.name ++ ":") ++ c.types.flatMap typeClass

/-- Nested classes that hold one constant for each member. -/
def staticText (root : Text) (containers : List ContainerView) : Text :=
  line 0 (("class " : Text) ++ root ++ ":")
    ++ line 4 "\"\"\"Digest constants addressable without any lookup.\"\"\""
    ++ containers.flatMap containerClass

def stampLine (m : MemberView) : Text :=
  line 12 (Text.quoted m.key ++ ": (" ++ Text.quoted m.stamp.digest ++ ", "
    ++ Text.quoted m.stamp.signature ++ "),")

def typeStamps (t : TypeView) : Text :=
  line 8 (Text.quoted t.key ++ ": " ++ openBrace) ++ t.members.flatMap stampLine
    ++ line 8 (closeBrace ++ ",")

def containerStamps (c : ContainerView) : Text :=
  line 4 (Text.quoted c.key ++ ": " ++ openBrace) ++ c.types.flatMap typeStamps
    ++ line 4 (closeBrace ++ ",")

/-- A mapping of all stamps, from which the registry is built again. -/
def runtimeText (containers : List ContainerView) : Text :=
  line 0 "from hashstamp.registry import Registry" ++ "\n"
    ++ line 0 (("REGISTRY = Registry.from_mapping(" : Text) ++ openBrace)
    ++ containers.flatMap containerStamps
    ++ closeBrace ++ ")"

/-- A module of both texts. -/
def moduleText (root : Text) (count : Nat) (runtime static : Text) : Text :=
  line 0 "# <auto-generated/>"
    ++ line 0 (("# Generated by hashstamp from " : Text) ++ Text.ofNat count
      ++ " members; do not edit.")
    ++ runtime ++ "\n\n" ++ static ++ "\n"
    ++ ("__all__ = [\"REGISTRY\", " : Text) ++ Text.quoted root ++ "]"

end BodyDigest.Emit

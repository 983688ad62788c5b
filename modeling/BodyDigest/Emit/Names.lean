import BodyDigest.Text.Identifier
import BodyDigest.Indented.Token
import BodyDigest.Text.Basic

/-! The attribute names of registry keys in the emitted classes. -/
namespace BodyDigest.Emit

/-- Names that a class statement assigns itself, or that its metaclass answers. -/
def classNames : List Text :=
  ["__module__", "__qualname__", "__doc__", "__dict__", "__class__", "__slots__", "__weakref__"]

def isKeyword (name : Text) : Bool := (Indented.keywords.map Text.ofString).contains name

def underscore : CodePoint := .char '_'

def startsPrivate (name : Text) : Bool := ("__" : Text).isPrefixOf name

def endsPrivate (name : Text) : Bool := ("__" : Text).isSuffixOf name

/-- The attribute for a type or member. A private name loses its underscores, because a class would
change it; such a name, a keyword and a name of the class itself get one at the end. -/
def staticName (name : Text) : Text :=
  if startsPrivate name && !endsPrivate name then name.dropWhile (· = underscore) ++ [underscore]
  else if isKeyword name || classNames.contains name then name ++ [underscore]
  else name

/-- The attribute for a namespace, whose points become underscores. -/
def containerName (scope : Text) : Text :=
  staticName (Text.replaceOne (.char '.') [underscore] scope)

end BodyDigest.Emit

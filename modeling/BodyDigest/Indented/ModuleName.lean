import BodyDigest.Files.Path
import BodyDigest.Text.Identifier

/-! The dotted name under which the module of a file is imported. -/
namespace BodyDigest.Indented

/-- Parts that lead to a file, its name without suffix. -/
def stemParts (parts : List Text) : Except Path.Fault (List Text) :=
  match parts.getLast? with
  | none => .error .nameless
  | some name => .ok (parts.dropLast ++ [(Path.cutSuffix name).1])

/-- Drops the directory of sources in front and the name of a package's own file behind. -/
def packageParts (parts : List Text) : List Text :=
  let parts := if parts.head? = some ("src" : Text) then parts.tail else parts
  if parts.getLast? = some ("__init__" : Text) then parts.dropLast else parts

/-- The name of a module below `root`, which itself names the module that has no other name. There
is none where a part is no identifier. -/
def moduleName (root path : Path) : Except Path.Fault (Option Text) := do
  let parts := packageParts (← stemParts (← path.relativeTo root))
  let parts := if parts.isEmpty then [root.name] else parts
  return if parts.all Text.isIdentifier then some (Text.join [Path.point] parts) else none

end BodyDigest.Indented

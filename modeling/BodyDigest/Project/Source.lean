import BodyDigest.Braced.Members
import BodyDigest.Files.Tree
import BodyDigest.Indented.Members
import BodyDigest.Indented.ModuleName
import BodyDigest.Text.Lowercase

/-! Sources of descriptors, and what each of them finds in a file. -/
namespace BodyDigest

/-- A source of descriptors: of Python modules, of C# and Java files, or one that is plugged in. -/
inductive Source where
  | indented (ignoreDocumentation : Bool)
  | braced (defaultScope : Text) (isActive : Bool)
  | plugin
  deriving DecidableEq

/-- Why a source has no descriptors of a file. -/
inductive DescribeError where
  | path (e : Path.Fault)
  | read (e : ReadError)
  | members (e : Indented.MembersError)
  deriving DecidableEq

def bracedLanguage? (p : Path) : Option Braced.Language :=
  let suffix := p.suffix.lower
  if suffix = (".cs" : Text) then some .csharp
  else if suffix = (".java" : Text) then some .java
  else none

namespace Source

/-- Whether a source is meant for a file. -/
def supports (p : Path) : Source → Bool
  | .indented _ => p.suffix = (".py" : Text)
  | .braced _ isActive => isActive && (bracedLanguage? p).isSome
  | .plugin => false

def indentedMembers (t : Tree) (root p : Path) (ignoreDocumentation : Bool) :
    Except DescribeError (Option (List Descriptor)) := do
  match ← (Indented.moduleName root p).mapError .path with
  | none => return none
  | some scope =>
    let cs ← (t.charsAt p).mapError .read
    let parts ← (p.relativeTo root).mapError .path
    let reading : Indented.Reading := ⟨scope, Path.spelled parts, ignoreDocumentation⟩
    return some (← (Indented.members reading (Text.ofChars cs)).mapError .members)

def bracedMembers (t : Tree) (root p : Path) (defaultScope : Text) :
    Except DescribeError (List Descriptor) := do
  match bracedLanguage? p with
  | none => return []
  | some language =>
    let cs ← (t.charsAt p).mapError .read
    let parts ← (p.relativeTo root).mapError .path
    return Braced.members ⟨language, Path.spelled parts, defaultScope⟩ cs

/-- The descriptors that a source finds in a file below `root`. A file that no module name belongs
to has none to be found. -/
def found (t : Tree) (root p : Path) : Source → Except DescribeError (Option (List Descriptor))
  | .indented ignoreDocumentation => indentedMembers t root p ignoreDocumentation
  | .braced defaultScope isActive =>
    if isActive then return some (← bracedMembers t root p defaultScope) else return some []
  | .plugin => return some []

end Source

end BodyDigest

import BodyDigest.Files.Ignore
import BodyDigest.Files.Tree

/-!
The files of a directory that no rule hides. A directory that is hidden hides all that is in it.
-/
namespace BodyDigest.Scan

/-- Directories that are never entered. -/
def skippedNames : List Text := [
  ".git", ".hg", ".svn", ".venv", "venv", "node_modules", "__pycache__", ".pytest_cache",
  ".mypy_cache", ".tox", ".idea", "bin", "obj", "dist"]

def isSkipped (parts : List Text) : Bool := skippedNames.contains (parts.getLast?.getD [])

mutual

/-- The files at `parts` and below that are shown. -/
def shown (rules : List IgnoreRule) (parts : List Text) : Tree → List (List Text)
  | .file _ => if IgnoreRule.hides rules (Path.spelled parts) false then [] else [parts]
  | .directory entries =>
    if isSkipped parts || IgnoreRule.hides rules (Path.spelled parts) true then []
    else shownIn rules parts entries

/-- The files among the entries of the directory at `parts` that are shown. -/
def shownIn (rules : List IgnoreRule) (parts : List Text) : List (Text × Tree) → List (List Text)
  | [] => []
  | (name, t) :: rest => shown rules (parts ++ [name]) t ++ shownIn rules parts rest

end

inductive ScanError where
  | noSuchPath (root : Path)
  | notDirectory (root : Path)
  | ignoreFile (e : ReadError)
  deriving DecidableEq

def ScanError.message : ScanError → Text
  | .noSuchPath root => ("Source path not found: " : Text) ++ root.text
  | .notDirectory root => ("Source path is not a directory: " : Text) ++ root.text
  | .ignoreFile e => e.message

def ignoreFileName : Text := ".gitignore"

/-- The rules that a directory states in its own file. -/
def statedRules (t : Tree) (root : Path) : Except ReadError (List IgnoreRule) :=
  let file := root.child ignoreFileName
  if t.holds file then return IgnoreRule.ofLines (Text.ofChars (← t.charsAt file)) else return []

/-- The shown files below `root` in order, by the parts that lead to them from there. What
`excludes` hides no rule shows again. `asked` is the path as messages name it. -/
def files (t : Tree) (root asked : Path) (excludes : List Text) :
    Except ScanError (List (List Text)) :=
  match t.look root with
  | .error _ => .error (.noSuchPath asked)
  | .ok (.file _) => .error (.notDirectory asked)
  | .ok (.directory entries) => do
    let stated ← (statedRules t root).mapError .ignoreFile
    let rules := stated ++ excludes.filterMap (IgnoreRule.ofText false)
    return (shownIn rules [] entries).mergeSort Path.partsLe

end BodyDigest.Scan

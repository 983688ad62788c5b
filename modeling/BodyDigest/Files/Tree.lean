import BodyDigest.Files.Path
import BodyDigest.Text.Lines
import BodyDigest.Text.Utf8

/-!
A tree of files and directories, seen from the top. The names in a directory are taken to be
different from one another.
-/
namespace BodyDigest

inductive Tree where
  | file (octets : List UInt8)
  | directory (entries : List (Text × Tree))

/-- Why a place cannot be read or written. -/
inductive AccessError where
  | missing
  | occupied
  | notDirectory
  | isDirectory
  deriving DecidableEq

def AccessError.number : AccessError → Nat
  | .missing => 2
  | .occupied => 17
  | .notDirectory => 20
  | .isDirectory => 21

def AccessError.reason : AccessError → Text
  | .missing => "No such file or directory"
  | .occupied => "File exists"
  | .notDirectory => "Not a directory"
  | .isDirectory => "Is a directory"

/-- The message of a failed access to `path`. -/
def AccessError.message (e : AccessError) (path : Path) : Text :=
  ("[Errno " : Text) ++ Text.ofNat e.number ++ "] " ++ e.reason ++ ": " ++ Text.quoted path.text

namespace Tree

/-- What the names lead to. -/
def get : Tree → List Text → Except AccessError Tree
  | t, [] => .ok t
  | .file _, _ :: _ => .error .notDirectory
  | .directory entries, name :: rest =>
    match entries.lookup name with
    | none => .error .missing
    | some t => t.get rest

/-- Names that lead to the same place without a step upwards; such a step starts in a directory. -/
def canonical (t : Tree) (here : List Text) : List Text → Except AccessError (List Text)
  | [] => .ok here
  | name :: rest =>
    if name = Path.upwards then
      match t.get here with
      | .ok (.directory _) => canonical t here.dropLast rest
      | .ok (.file _) => .error .notDirectory
      | .error e => .error e
    else canonical t (here ++ [name]) rest

/-- What stands at an absolute path. -/
def look (t : Tree) (p : Path) : Except AccessError Tree := do t.get (← t.canonical [] p.parts)

def holds (t : Tree) (p : Path) : Bool := (t.look p).isOk

def isDirectory : Tree → Bool
  | .directory _ => true
  | .file _ => false

def holdsDirectory (t : Tree) (p : Path) : Bool :=
  match t.look p with
  | .ok found => found.isDirectory
  | .error _ => false

def octetsAt (t : Tree) (p : Path) : Except AccessError (List UInt8) := do
  match ← t.look p with
  | .file octets => return octets
  | .directory _ => throw .isDirectory

mutual

/-- All files at `parts` and below. -/
def files (parts : List Text) : Tree → List (List Text × List UInt8)
  | .file octets => [(parts, octets)]
  | .directory entries => filesIn parts entries

def filesIn (parts : List Text) : List (Text × Tree) → List (List Text × List UInt8)
  | [] => []
  | (name, t) :: rest => files (parts ++ [name]) t ++ filesIn parts rest

end

/-! ### Changes -/

/-- Sets the entry of a name, which keeps its place. -/
def setEntry (name : Text) (t : Tree) : List (Text × Tree) → List (Text × Tree)
  | [] => [(name, t)]
  | (n, u) :: rest => if n = name then (n, t) :: rest else (n, u) :: setEntry name t rest

/-- Puts `new` where the names lead, with the directories that are missing on the way; nothing is
put below a file. -/
def put (new : Tree) : List Text → Tree → Tree
  | [], _ => new
  | _ :: _, .file octets => .file octets
  | name :: rest, .directory entries =>
    .directory (setEntry name (put new rest ((entries.lookup name).getD (.directory []))) entries)

/-- Takes away what the names lead to. -/
def remove : List Text → Tree → Tree
  | [], t => t
  | _ :: _, .file octets => .file octets
  | [name], .directory entries => .directory (entries.filter (·.1 ≠ name))
  | name :: next :: rest, .directory entries =>
    .directory (entries.map fun e => if e.1 = name then (e.1, remove (next :: rest) e.2) else e)

/-- Why a file is not written, the path that this is about, and the tree that the attempt leaves. -/
structure WriteFault where
  error : AccessError
  path : Path
  left : Tree

/-- Makes the directories that are missing along `rest`, from the directory at `here`. One made
before a step upwards stays, also where a later part fails. The path of a fault is all of `asked`,
or, once a directory has been made, what was followed of it. -/
def makeDirectories (asked : Path) (t : Tree) (here followed : List Text) (isMaking : Bool) :
    List Text → Except WriteFault Tree
  | [] => .ok t
  | name :: rest =>
    let followed := followed ++ [name]
    if name = Path.upwards then makeDirectories asked t here.dropLast followed isMaking rest
    else
      let here := here ++ [name]
      match t.get here with
      | .ok (.directory _) => makeDirectories asked t here followed isMaking rest
      | .ok (.file _) =>
        if isMaking then .error ⟨.occupied, ⟨asked.anchor, followed⟩, t⟩
        else .error ⟨if rest.isEmpty then .occupied else .notDirectory, asked, t⟩
      | .error _ => makeDirectories asked (put (.directory []) here t) here followed true rest

/-- Writes a file, and makes the directories that are missing on the way to it. -/
def write (t : Tree) (p : Path) (octets : List UInt8) : Except WriteFault Tree := do
  let t ← makeDirectories p.parent t [] [] false p.parent.parts
  let names := Path.settle [] p.parts
  match t.get names with
  | .ok (.directory _) => throw ⟨.isDirectory, p, t⟩
  | _ => return put (.file octets) names t

end Tree

/-! ### Reading text -/

inductive ReadError where
  | access (e : AccessError) (path : Path)
  | encoding (e : Utf8.DecodeError)
  deriving DecidableEq

def ReadError.message : ReadError → Text
  | .access e path => e.message path
  | .encoding e => e.message

/-- The characters of a file, with unified line ends. -/
def Tree.charsAt (t : Tree) (p : Path) : Except ReadError (List Char) := do
  let octets ← (t.octetsAt p).mapError (.access · p)
  return Lines.unify (← (Utf8.decode octets).mapError .encoding)

/-- A tree and the absolute path at which relative ones are read. -/
structure Workspace where
  tree : Tree
  here : Path

def Workspace.settle (w : Workspace) (p : Path) : Except Path.Fault Path := Path.settled w.here p

end BodyDigest

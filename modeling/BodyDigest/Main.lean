import BodyDigest.CommandLine.Ending

/-!
The command line on the files of the machine: reads what a command may look at into a tree, and
writes the files in which the tree that it leaves differs.
-/
namespace BodyDigest.Outer

def stringOf (t : Text) : String := String.ofList (t.filterMap CodePoint.char?)

/-- What stands at a path. Entries that cannot be read are left out. -/
partial def treeAt (path : String) : IO Tree := do
  let place := (← IO.currentDir) / path
  if ← place.isDir then
    let mut entries : List (Text × Tree) := []
    for entry in ← place.readDir do
      try
        entries := (Text.ofString entry.fileName, ← treeAt entry.path.toString) :: entries
      catch _ => pure ()
    return .directory entries
  else
    return .file (← IO.FS.readBinFile place).toList

/-- Puts what stands at an absolute path, if anything does, into a tree. -/
def loadInto (t : Tree) (p : Path) : IO Tree := do
  match p.parts with
  | [] => return t
  | _ =>
    try
      return Tree.put (← treeAt (stringOf p.text)) p.parts t
    catch _ => return t

/-- Adds the place of a command and its output to what is known of the machine. -/
def loadFor (w : Workspace) (r : Request) : IO Workspace := do
  match w.settle r.place with
  | .error _ => return w
  | .ok root =>
    let below : Workspace := ⟨← loadInto w.tree root, w.here⟩
    match Command.settingsFor below r root with
    | .error _ => return below
    | .ok s =>
      let wanted := Command.targetOf below r s :: s.templates.toList
      let outside := (wanted.filterMap fun p => (below.settle p).toOption).filter fun p =>
        !root.parts.isPrefixOf p.parts
      return ⟨← outside.foldlM loadInto below.tree, w.here⟩

def workspaceFor (here : Path) (ts : List Text) : IO Workspace :=
  let empty : Workspace := ⟨Tree.put (.directory []) here.parts (.directory []), here⟩
  match CommandLine.read ts with
  | .ok (.command _ c) => loadFor empty (CommandLine.requestOf c)
  | _ => pure empty

/-- The files of `after` that `before` does not hold as they are. -/
def changedFiles (before after : Tree) : List (List Text × List UInt8) :=
  (Tree.files [] after).filter fun f =>
    match before.get f.1 with
    | .ok (.file octets) => octets ≠ f.2
    | _ => true

def writeFile (f : List Text × List UInt8) : IO Unit := do
  IO.FS.createDirAll (stringOf (⟨.top, f.1.dropLast⟩ : Path).text)
  IO.FS.writeBinFile (stringOf (⟨.top, f.1⟩ : Path).text) ⟨f.2.toArray⟩

def finish (before : Tree) : CommandLine.Ending → IO UInt32
  | .exit code stdout stderr after => do
    (changedFiles before after).forM writeFile
    IO.print (stringOf stdout)
    IO.eprint (stringOf stderr)
    return code.toUInt32
  | .escaped stderr e after => do
    (changedFiles before after).forM writeFile
    IO.eprint (stringOf (stderr ++ CommandLine.lineOf e.message))
    return 1

end BodyDigest.Outer

open BodyDigest in
/-- Runs the command line; the time that it tells is that of reading the files. -/
def main (args : List String) : IO UInt32 := do
  let started ← IO.monoMsNow
  let here := Path.ofText (Text.ofString (← IO.currentDir).toString)
  let ts := args.map Text.ofString
  let w ← Outer.workspaceFor here ts
  let elapsed := secondsText false ((← IO.monoMsNow) - started) (-3)
  Outer.finish w.tree (CommandLine.ending w elapsed ts)

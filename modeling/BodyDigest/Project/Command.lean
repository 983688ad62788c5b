import BodyDigest.Project.Error

/-!
The commands on a project: to write the module of its registry, to compare that module with the
project, and to list the registry.
-/
namespace BodyDigest

/-- What a command has logged, the tree that it leaves where it has changed anything, and how it
ended. A change stays where a later step fails. -/
structure Traced (α : Type) where
  log : List LogLine
  change : Option Tree
  result : Except CommandError α

namespace Traced

instance : Monad Traced where
  pure a := ⟨[], none, .ok a⟩
  bind x f :=
    match x.result with
    | .ok a => ⟨x.log ++ (f a).log, (f a).change.or x.change, (f a).result⟩
    | .error e => ⟨x.log, x.change, .error e⟩

def say (severity : Severity) (t : Text) : Traced Unit := ⟨[⟨severity, t⟩], none, .ok ()⟩

def raise {α : Type} (e : CommandError) : Traced α := ⟨[], none, .error e⟩

/-- A result whose error has a cause of its own. -/
def lift {ε α : Type} (cause : ε → CommandError) (e : Except ε α) : Traced α :=
  ⟨[], none, e.mapError cause⟩

/-- A tree that is left, also by an attempt that fails. -/
def store : Except (CommandError × Tree) Tree → Traced Tree
  | .ok t => ⟨[], some t, .ok t⟩
  | .error (e, t) => ⟨[], some t, .error e⟩

/-- The tree after a command that began with `t`. -/
def treeAfter {α : Type} (t : Tree) (x : Traced α) : Tree := x.change.getD t

end Traced

/-- What a command is asked for. Settings and sources that are given take the place of those of the
project. -/
structure Request where
  place : Path
  output : Option Path := none
  settings : Option Settings := none
  sources : Option (List Source) := none

namespace Command

open Traced (say raise lift store)

/-! ### Collecting descriptors -/

def below (root : Path) (parts : List Text) : Path := ⟨root.anchor, root.parts ++ parts⟩

/-- Whether a failure concerns one file only, which is then passed over. -/
def isPassedOver : DescribeError → Bool
  | .read _ | .members (.source .malformed) | .members (.slice _) => true
  | _ => false

def noModuleText (p : Path) : Text :=
  ("Skipping " : Text) ++ p.text ++ ": path is not an importable module"

/-- The descriptors of one file from one source. -/
def describeFile (t : Tree) (root : Path) (parts : List Text) (s : Source) :
    Traced (List Descriptor) :=
  let p := below root parts
  if !s.supports p then pure []
  else
    match s.found t root p with
    | .ok (some ds) => pure ds
    | .ok none => do
      say .debug (noModuleText p)
      return []
    | .error e =>
      if isPassedOver e then do
        say .warning (("Skipping " : Text) ++ Path.spelled parts)
        return []
      else raise (.describe e)

def sourcesOf (r : Request) (s : Settings) : Except Discovery.Error (List Source) :=
  match r.sources with
  | some given => .ok given
  | none =>
    let wanted := if s.enabled.isEmpty then none else some s.enabled
    Discovery.sources wanted s.ignoreDocumentation s.defaultScope []

def countText (n : Nat) : Text := ("Scanner discovered " : Text) ++ Text.ofNat n ++ " files"

/-- The descriptors of all files below `root` but the output, file by file. -/
def collect (w : Workspace) (r : Request) (s : Settings) (root output : Path) :
    Traced (List Descriptor) := do
  let sources ← lift .discovery (sourcesOf r s)
  let output ← lift .path (w.settle output)
  let files ← lift .scan (Scan.files w.tree root root s.excludes)
  say .debug (countText files.length)
  let found ← (files.filter fun parts => below root parts ≠ output).mapM fun parts =>
    sources.mapM (describeFile w.tree root parts)
  return found.flatten.flatten

/-! ### Running -/

def settingsFor (w : Workspace) (r : Request) (root : Path) : Except Settings.Error Settings :=
  match r.settings with
  | some s => .ok s
  | none => Settings.load w root

/-- Where the module is written: an output that is asked for is read at the working directory. -/
def targetOf (w : Workspace) (r : Request) (s : Settings) : Path :=
  match r.output with
  | some p => w.here.join p
  | none => s.outputPath

/-- The files of a directory of templates. -/
def templatesIn (t : Tree) (dir : Path) : Emit.Templates :=
  match t.look dir with
  | .ok (.directory entries) => (Tree.filesIn [] entries).map fun f => (Path.spelled f.1, f.2)
  | _ => []

def optionsOf (t : Tree) (s : Settings) : RunOptions :=
  ⟨s.rootClass, s.workers, (s.templates.map (templatesIn t)).getD []⟩

/-- The run over descriptors, which took `elapsed` seconds. -/
def runOn (t : Tree) (s : Settings) (elapsed : Text) (ds : List Descriptor) : Traced Outcome := do
  let outcome ← lift .run (run (optionsOf t s) ds)
  (⟨outcome.log elapsed, none, .ok ()⟩ : Traced Unit)
  return outcome

/-! ### Commands -/

/-- What a run for the module has done: whether it is written, and the tree it leaves. -/
structure Generated where
  target : Path
  outcome : Outcome
  isWritten : Bool
  isDryRun : Bool
  tree : Tree

/-- The text at a path, if it holds anything. -/
def textAt (t : Tree) (p : Path) : Except ReadError (Option Text) :=
  if t.holds p then return some (Text.ofChars (← t.charsAt p)) else return none

/-- Writes a text, or says what the attempt leaves: a file is emptied before its text is encoded. -/
def writeText (t : Tree) (p : Path) (text : Text) : Except (CommandError × Tree) Tree :=
  let filled (octets : List UInt8) : Except (CommandError × Tree) Tree :=
    (t.write p octets).mapError fun e => (.write e.error e.path, e.left)
  match Utf8.encodeText text with
  | .ok octets => filled octets
  | .error e => do throw (.unencodable e, ← filled [])

/-- Writes the module of a project, unless it is there already or the run is a dry one. -/
def generate (w : Workspace) (elapsed : Text) (isDryRun : Bool) (r : Request) :
    Traced Generated := do
  let root ← lift .path (w.settle r.place)
  say .info (("Starting generate run for " : Text) ++ root.text)
  let s ← lift .settings (settingsFor w r root)
  let target := targetOf w r s
  let outcome ← runOn w.tree s elapsed (← collect w r s root target)
  let module := outcome.artifacts.module
  let old ← lift .read (textAt w.tree target)
  if old = some module then do
    say .info (("Generated module identical to " : Text) ++ target.text ++ "; skipping write")
    return ⟨target, outcome, false, isDryRun, w.tree⟩
  else if isDryRun then do
    say .info (("Dry-run completed; " : Text) ++ target.text ++ " not written")
    return ⟨target, outcome, false, true, w.tree⟩
  else do
    let tree ← store (writeText w.tree target module)
    say .info (("Generated module written to " : Text) ++ target.text)
    return ⟨target, outcome, true, false, tree⟩

/-- The registry that a module holds. -/
def registryAt (t : Tree) (target : Path) : Except CommandError Registry := do
  let cs ← (t.charsAt target).mapError .read
  (Indented.registryOfModule cs).mapError (.registry target)

/-- The registry of a module, which is empty where there is none. -/
def previousAt (t : Tree) (target : Path) : Except CommandError Registry :=
  if t.holds target then registryAt t target else .ok Registry.empty

/-- How the registry of a project differs from that of its module. -/
def check (w : Workspace) (elapsed : Text) (r : Request) : Traced Diff := do
  let root ← lift .path (w.settle r.place)
  let s ← lift .settings (settingsFor w r root)
  let target := targetOf w r s
  let previous ← lift id (previousAt w.tree target)
  let outcome ← runOn w.tree s elapsed (← collect w r s root target)
  let changes := Diff.between previous outcome.registry
  if changes.isEmpty then say .info (target.text ++ " is up to date")
  else
    say .info (target.text ++ " is stale: " ++ Text.ofNat changes.lines.length ++ " differences")
  return changes

/-- The registry of a project. -/
def list (w : Workspace) (elapsed : Text) (r : Request) : Traced Registry := do
  let root ← lift .path (w.settle r.place)
  let s ← lift .settings (settingsFor w r root)
  let outcome ← runOn w.tree s elapsed (← collect w r s root s.outputPath)
  return outcome.registry

end Command

end BodyDigest

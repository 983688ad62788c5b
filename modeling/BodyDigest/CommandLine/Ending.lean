import BodyDigest.CommandLine.Arguments
import BodyDigest.Project.Command

/-! What a command line does: the texts that it shows, its code, and the tree that it leaves. -/
namespace BodyDigest.CommandLine

/-- How a command line ends, and the tree that it leaves; a failure that it has no words for
escapes. -/
inductive Ending where
  | exit (code : Nat) (stdout stderr : Text) (tree : Tree)
  | escaped (stderr : Text) (e : CommandError) (tree : Tree)

def lineOf (t : Text) : Text := t ++ [.char '\n']

def tool : Text := "hashstamp"

/-- The tool, and the command behind which something is said. -/
def speaker : Option Verb → Text
  | none => tool
  | some v => tool ++ " " ++ v.name

def misuseText (m : Misuse) : Text := speaker m.1 ++ ": error: " ++ m.2.message

def spellingsText (v : Option Verb) : Text :=
  Text.join " " ((flagsOf v).map fun f => ("[" : Text) ++ f.label ++ "]")

def usageText (v : Option Verb) : Text :=
  let operand : Text := match v with
    | none => "command ..."
    | some _ => "[path]"
  ("usage: " : Text) ++ speaker v ++ " " ++ spellingsText v ++ " " ++ operand

/-- The lines of a log that are shown. -/
def logText (verbose : Bool) (log : List LogLine) : Text :=
  (LogLine.atLeast (threshold verbose) log).flatMap fun l => lineOf l.console

/-- A path as it is shown: from the working directory if it lies below. -/
def shownPath (here p : Path) : Text :=
  match p.relativeTo here with
  | .ok parts => (⟨.relative, parts⟩ : Path).text
  | .error _ => p.text

def failureText (v : Verb) (e : CommandError) : Text :=
  lineOf (speaker (some v) ++ " failed: " ++ e.message)
    ++ lineOf "Run with --verbose for more details."

/-- What a command shows of its result. -/
structure Shown where
  code : Nat
  stdout : Text
  stderr : Text
  tree : Tree

/-- The ending of a command whose result is shown by `f`. -/
def Traced.ending {α : Type} (w : Workspace) (v : Verb) (verbose : Bool) (f : α → Shown)
    (t : Traced α) : Ending :=
  let log := logText verbose t.log
  match t.result with
  | .ok a => .exit (f a).code (f a).stdout (log ++ (f a).stderr) (f a).tree
  | .error e =>
    let left := t.treeAfter w.tree
    if e.isReported then .exit 1 [] (log ++ failureText v e) left else .escaped log e left

def generatedText (here : Path) (isDryRun : Bool) (g : Command.Generated) : Text :=
  let count := Text.ofNat g.outcome.registry.size
  let target := shownPath here g.target
  if g.isWritten then ("Wrote " : Text) ++ count ++ " member digests to " ++ target
  else if isDryRun then count ++ " member digests computed for " ++ target ++ " (dry-run)"
  else target ++ " already up to date"

def showGenerated (here : Path) (isDryRun : Bool) (g : Command.Generated) : Shown :=
  ⟨0, lineOf (generatedText here isDryRun g), [], g.tree⟩

def showDiff (t : Tree) (d : Diff) : Shown :=
  if d.isEmpty then ⟨0, lineOf "Generated module is up to date", [], t⟩
  else ⟨1, d.lines.flatMap lineOf, lineOf "Generated module is stale; run `hashstamp generate`.", t⟩

/-- The entries in order of their keys, or those of one namespace. -/
def listed (scope : Option Text) (r : Registry) : List Entry :=
  let wanted := scope.filter (!·.isEmpty)
  (r.members.mergeSort fun a b => Key.le a.key b.key).filter fun e => wanted.all (· = e.key.scope)

def showRegistry (t : Tree) (scope : Option Text) (r : Registry) : Shown :=
  ⟨0, (listed scope r).flatMap fun e => lineOf (e.key.path ++ " " ++ e.stamp.digest), [], t⟩

def requestOf (c : Choices) : Request where
  place := Path.ofText (c.place.getD [Path.point])
  output := c.output.map Path.ofText

def perform (w : Workspace) (elapsed : Text) (v : Verb) (c : Choices) : Ending :=
  match v with
  | .generate =>
    Traced.ending w v c.verbose (showGenerated w.here c.dryRun)
      (Command.generate w elapsed c.dryRun (requestOf c))
  | .check =>
    Traced.ending w v c.verbose (showDiff w.tree) (Command.check w elapsed (requestOf c))
  | .list =>
    Traced.ending w v c.verbose (showRegistry w.tree c.scope)
      (Command.list w elapsed (requestOf c))

/-- The ending of the command line with the arguments `ts`, where a run takes `elapsed` seconds. -/
def ending (w : Workspace) (elapsed : Text) (ts : List Text) : Ending :=
  match read ts with
  | .error m => .exit 2 [] (lineOf (misuseText m)) w.tree
  | .ok (.help v) => .exit 0 (lineOf (usageText v)) [] w.tree
  | .ok (.command v c) => perform w elapsed v c

end BodyDigest.CommandLine

import BodyDigest.Files.Tree
import BodyDigest.Number.Shortest
import BodyDigest.Text.Identifier
import BodyDigest.Yaml.Value

/-! Settings of a project, and the file that states them. -/
namespace BodyDigest

structure Settings where
  root : Path
  output : Path := Path.ofText "hashstamps.py"
  rootClass : Text := "HashStamps"
  defaultScope : Text := "Global"
  workers : Option Int := none
  excludes : List Text := []
  enabled : List Text := []
  ignoreDocumentation : Bool := true
  templates : Option Path := none

namespace Settings

def outputPath (s : Settings) : Path := s.root.join s.output

def fileName : Text := ".hashstamp.yml"

/-- Why there are no settings. -/
inductive Error where
  | path (e : Path.Fault)
  | read (e : ReadError)
  | malformed
  | notMapping
  | badRootClass (name : Text)
  | badWorkers
  | badValue (e : Yaml.Fault)
  | tooManyDigits
  deriving DecidableEq

/-- What is said of values that no document may hold. -/
def faultMessage : Yaml.Fault → Text
  | .malformed => ("Failed to parse " : Text) ++ fileName
  | .noCodePoint _ => "chr() arg not in range(0x110000)"
  | .badNumber => "invalid literal"
  | .noNumber => "string index out of range"
  | .badDate => "day is out of range for month"
  | .notDate => "no date"
  | .notBool value => Text.quoted value

def tooManyDigitsMessage : Text :=
  ("Exceeds the limit (4300 digits) for integer string conversion; " : Text)
    ++ "use sys.set_int_max_str_digits() to increase the limit"

def Error.message : Error → Text
  | .path e => e.message
  | .read e => e.message
  | .malformed => faultMessage .malformed
  | .notMapping => fileName ++ " must contain a mapping at the root"
  | .badRootClass name => ("root_class must be a valid identifier, got " : Text) ++ Text.quoted name
  | .badWorkers => "workers must be a positive integer"
  | .badValue e => faultMessage e
  | .tooManyDigits => tooManyDigitsMessage

/-! ### Reading values -/

open Yaml (Value Loaded)

def integerText (n : Int) : Except Error Text :=
  let t := Text.ofInt n
  if Numeral.maxDigits < (Nat.toDigits 10 n.natAbs).length then .error .tooManyDigits else .ok t

def realText : Numeral.SignedNumber → Text
  | .number negative x =>
    let digits := Text.ofChars (x.render .withZero "inf".toList)
    if negative then .char '-' :: digits else digits
  | .notNumber => "nan"

/-- The text of a text or number. -/
def textOf : Value → Except Error (Option Text)
  | .text t => .ok (some t)
  | .integer n => return some (← integerText n)
  | .real x => .ok (some (realText x))
  | _ => .ok none

def flagText (b : Bool) : Text := if b then "True" else "False"

/-- The texts of a list: those of its texts, numbers and flags. A text alone is a list of one, and
octets are numbers. -/
def textsOf (l : Loaded) : Value → Except Error (List Text)
  | .text t => .ok [t]
  | .octets bs => .ok (bs.map fun b => Text.ofNat b.toNat)
  | .list items => do
    let texts ← items.mapM fun item =>
      match l.follow item with
      | .bool b => return some (flagText b)
      | v => textOf v
    return texts.filterMap id
  | _ => .ok []

def integerOf : Value → Option Int
  | .integer n => some n
  | .text t => Numeral.integer? 10 t
  | _ => none

/-- A flag, or one of the words for it. -/
def flagOf : Value → Option Bool
  | .bool b => some b
  | .text t =>
    let word := t.trim.lower
    if ["true", "yes", "1"].any fun w => word = Text.ofString w then some true
    else if ["false", "no", "0"].any fun w => word = Text.ofString w then some false
    else none
  | _ => none

abbrev Entries := List (Value × Value)

def entriesOf : Option Value → Entries
  | some (.mapping entries) => entries
  | _ => []

/-- The text behind a key, unless it is empty. -/
def givenText (l : Loaded) (entries : Entries) (key : Text) : Except Error (Option Text) := do
  match l.entry? entries key with
  | none => return none
  | some v => return (← textOf v).filter (!·.isEmpty)

def listBehind (l : Loaded) (entries : Entries) (key : Text) : Except Error (List Text) :=
  match l.entry? entries key with
  | none => .ok []
  | some v => textsOf l v

def rootClassOf (given : Option Text) (default : Text) : Except Error Text :=
  match given with
  | none => .ok default
  | some name => if name.isIdentifier then .ok name else .error (.badRootClass name)

def workersOf (given : Option Value) : Except Error (Option Int) :=
  match given with
  | none => .ok none
  | some v =>
    match integerOf v with
    | some n => if n < 1 then .error .badWorkers else .ok (some n)
    | none => .error .badWorkers

/-- The settings that a mapping states. -/
def ofMapping (l : Loaded) (entries : Entries) (root : Path) : Except Error Settings := do
  let base : Settings := { root := root }
  let output ← givenText l entries "output"
  let rootClass ← rootClassOf (← givenText l entries "root_class") base.rootClass
  let defaultScope ← givenText l entries "default_namespace"
  let workers ← workersOf (l.entry? entries "workers")
  let excludes ← listBehind l entries "exclude_paths"
  let enabled ← listBehind l (entriesOf (l.entry? entries "sources")) "enabled"
  let ofPython := entriesOf (l.entry? entries "python")
  let documentation := (l.entry? ofPython "ignore_docstrings").bind flagOf
  let templates ← givenText l entries "templates_dir"
  return {
    root := root
    output := (output.map Path.ofText).getD base.output
    rootClass := rootClass
    defaultScope := defaultScope.getD base.defaultScope
    workers := workers
    excludes := excludes
    enabled := enabled
    ignoreDocumentation := documentation.getD base.ignoreDocumentation
    templates := templates.map fun t => root.join (Path.ofText t) }

/-- The settings of a text. A blank text, and a value that counts as nothing, state none. -/
def ofChars (cs : List Char) (root : Path) : Except Error Settings := do
  if (Text.ofChars cs).trim.isEmpty then return { root := root }
  else
    match Yaml.load cs with
    | .error .malformed => throw .malformed
    | .error e => throw (.badValue e)
    | .ok l =>
      let v := l.follow l.root
      match v with
      | .mapping entries => ofMapping l entries root
      | v => if v.isEmpty then return { root := root } else throw .notMapping

/-- The file of the settings for a path: in the directory at the path, else beside the path. -/
def file (w : Workspace) (p : Path) : Except Path.Fault Path :=
  if w.tree.holdsDirectory (w.here.join p) then w.settle (p.child fileName)
  else if p.name ≠ fileName then w.settle (p.parent.child fileName)
  else w.settle p

/-- The settings for a path. Without a file they are the default ones. -/
def load (w : Workspace) (p : Path) : Except Error Settings := do
  let file ← (file w p).mapError .path
  if w.tree.holds file then
    ofChars (← (w.tree.charsAt file).mapError .read) file.parent
  else return { root := file.parent }

end Settings

end BodyDigest

import BodyDigest.Text.Quoted
import BodyDigest.Text.Word

/-!
Arguments of the command line. Flags stand before the command or behind it; a long flag may be cut
short, short flags may be run together, and behind two hyphens no argument is a flag.
-/
namespace BodyDigest.CommandLine

inductive Flag where
  | help
  | verbose
  | output
  | dryRun
  | scope
  deriving DecidableEq

inductive Verb where
  | generate
  | check
  | list
  deriving DecidableEq

def Verb.name : Verb → Text
  | .generate => "generate"
  | .check => "check"
  | .list => "list"

def verbs : List Verb := [.generate, .check, .list]

def Verb.ofName? (t : Text) : Option Verb := verbs.find? fun v => v.name = t

def Flag.spellings : Flag → List Text
  | .help => ["-h", "--help"]
  | .verbose => ["-v", "--verbose"]
  | .output => ["-o", "--output"]
  | .dryRun => ["--dry-run"]
  | .scope => ["--namespace"]

def Flag.takesValue : Flag → Bool
  | .output | .scope => true
  | .help | .verbose | .dryRun => false

/-- The flags of a command, or those that stand before it. -/
def flagsOf : Option Verb → List Flag
  | none => [.help, .verbose]
  | some .generate => [.help, .verbose, .output, .dryRun]
  | some .check => [.help, .verbose, .output]
  | some .list => [.help, .verbose, .scope]

/-- Spellings with their flags. -/
abbrev Spellings := List (Text × Flag)

def spellingsOf (v : Option Verb) : Spellings :=
  (flagsOf v).flatMap fun f => f.spellings.map fun s => (s, f)

/-- Why arguments cannot be understood. -/
inductive UsageError where
  | ambiguous (argument : Text) (spellings : List Text)
  | valueExpected (f : Flag)
  | valueIgnored (f : Flag) (value : Text)
  | noCommand
  | unknownCommand (name : Text)
  | unrecognized (arguments : List Text)
  deriving DecidableEq

def Flag.label (f : Flag) : Text := Text.join "/" f.spellings

def UsageError.message : UsageError → Text
  | .ambiguous argument spellings =>
    ("ambiguous option: " : Text) ++ argument ++ " could match " ++ Text.join ", " spellings
  | .valueExpected f => ("argument " : Text) ++ f.label ++ ": expected one argument"
  | .valueIgnored f value =>
    ("argument " : Text) ++ f.label ++ ": ignored explicit argument " ++ Text.quoted value
  | .noCommand => "the following arguments are required: command"
  | .unknownCommand name =>
    ("argument command: invalid choice: " : Text) ++ Text.quoted name ++ " (choose from "
      ++ Text.join ", " (verbs.map fun v => Text.quoted v.name) ++ ")"
  | .unrecognized arguments =>
    ("unrecognized arguments: " : Text) ++ Text.join " " arguments

/-! ### Kinds of arguments -/

inductive Argument where
  | plain (t : Text)
  | separator
  | flag (f : Flag) (spelling : Text) (value : Option Text)
  | unknown (t : Text)

def hyphen : CodePoint := .char '-'

def equals : CodePoint := .char '='

def isDigit (c : CodePoint) : Bool := c.digit?.isSome

/-- A hyphen and a number, which is no flag. -/
def isNegativeNumber (t : Text) : Bool :=
  let whole := (t.drop 1).takeWhile isDigit
  match t.drop (whole.length + 1) with
  | [] => !whole.isEmpty
  | c :: fraction => c = .char '.' && !fraction.isEmpty && fraction.all isDigit

/-- What stands before the first equals sign and what stands behind it, if there is one. -/
def cutValue (t : Text) : Text × Option Text :=
  let name := t.takeWhile (· ≠ equals)
  match t.drop name.length with
  | [] => (name, none)
  | _ :: value => (name, some value)

/-- The flags that an argument may stand for when it is no full spelling. -/
def candidates (spellings : Spellings) (t : Text) : List (Text × Flag × Option Text) :=
  if t.tail.head? = some hyphen then
    let (name, value) := cutValue t
    (spellings.filter fun s => name.isPrefixOf s.1).map fun s => (s.1, s.2, value)
  else
    (spellings.filter fun s => s.1 = t.take 2).map fun s => (s.1, s.2, some (t.drop 2))

def unmatched (t : Text) : Argument :=
  if isNegativeNumber t || t.contains (.char ' ') then .plain t else .unknown t

def matched (spellings : Spellings) (t : Text) : Except UsageError Argument :=
  match candidates spellings t with
  | [] => .ok (unmatched t)
  | [(spelling, f, value)] => .ok (.flag f spelling value)
  | several => .error (.ambiguous t (several.map (·.1)))

/-- What an argument is where the given spellings are flags. -/
def argumentOf (spellings : Spellings) (t : Text) : Except UsageError Argument :=
  if t.head? ≠ some hyphen || t.length = 1 then .ok (.plain t)
  else
    let (name, value) := cutValue t
    match spellings.lookup t, spellings.lookup name with
    | some f, _ => .ok (.flag f t none)
    | none, some f => .ok (.flag f name value)
    | none, none => matched spellings t

def argumentsOf (spellings : Spellings) : List Text → Except UsageError (List Argument)
  | [] => .ok []
  | t :: rest =>
    if t = [hyphen, hyphen] then .ok (.separator :: rest.map .plain)
    else return (← argumentOf spellings t) :: (← argumentsOf spellings rest)

/-! ### Flags run together -/

/-- A flag with its value; the value is missing where the next argument has to be it. -/
abbrev Use := Flag × Option Text

/-- The flags of one argument, on fuel of its length. -/
def usesOf (spellings : Spellings) (fuel : Nat) (f : Flag) (spelling : Text) (value : Option Text) :
    Except UsageError (List Use) :=
  match value with
  | none => .ok [(f, none)]
  | some v =>
    if f.takesValue then .ok [(f, some v)]
    else
      match fuel, v with
      | n + 1, c :: rest =>
        if spelling.tail.head? = some hyphen then .error (.valueIgnored f v)
        else
          match spellings.lookup [hyphen, c] with
          | none => .error (.valueIgnored f v)
          | some g => do
            let more := if rest.isEmpty then none else some rest
            return (f, none) :: (← usesOf spellings n g [hyphen, c] more)
      | _, _ => .error (.valueIgnored f v)

/-- The flag that waits for its value. -/
def waiting (uses : List Use) : Option Flag :=
  match uses.getLast? with
  | some (f, none) => if f.takesValue then some f else none
  | _ => none

/-! ### Commands -/

/-- What has been read of a command. -/
structure Choices where
  verbose : Bool := false
  dryRun : Bool := false
  help : Bool := false
  output : Option Text := none
  scope : Option Text := none
  place : Option Text := none
  extras : List Text := []

namespace Choices

/-- Takes up one flag; nothing counts behind the call for help. -/
def use (c : Choices) (u : Use) : Choices :=
  if c.help then c
  else
    match u with
    | (.help, _) => { c with help := true }
    | (.verbose, _) => { c with verbose := true }
    | (.dryRun, _) => { c with dryRun := true }
    | (.output, value) => { c with output := value }
    | (.scope, value) => { c with scope := value }

def addExtra (c : Choices) (t : Text) : Choices := { c with extras := c.extras ++ [t] }

end Choices

/-- Reads what follows a command. A call for help ends the reading. -/
def readChoices (spellings : Spellings) (c : Choices) : List Argument → Except UsageError Choices
  | [] => .ok c
  | .plain t :: .separator :: rest =>
    match c.place with
    | none => readChoices spellings { c with place := some t } rest
    | some _ => readChoices spellings ((c.addExtra t).addExtra [hyphen, hyphen]) rest
  | .plain t :: rest =>
    match c.place with
    | none => readChoices spellings { c with place := some t } rest
    | some _ => readChoices spellings (c.addExtra t) rest
  | .separator :: rest =>
    match c.place with
    | none => readChoices spellings c rest
    | some _ => readChoices spellings (c.addExtra [hyphen, hyphen]) rest
  | .unknown t :: rest => readChoices spellings (c.addExtra t) rest
  | .flag f spelling value :: .plain t :: rest => do
    let uses ← usesOf spellings (value.getD []).length f spelling value
    match waiting uses with
    | some g =>
      let c := (uses.dropLast ++ [(g, some t)]).foldl Choices.use c
      if c.help then return c else readChoices spellings c rest
    | none =>
      let c := uses.foldl Choices.use c
      if c.help then return c else readChoices spellings c (.plain t :: rest)
  | .flag f spelling value :: rest => do
    let uses ← usesOf spellings (value.getD []).length f spelling value
    match waiting uses with
    | some g => throw (.valueExpected g)
    | none =>
      let c := uses.foldl Choices.use c
      if c.help then return c else readChoices spellings c rest

/-- What the arguments ask for. -/
inductive Asked where
  | help (verb : Option Verb)
  | command (verb : Verb) (choices : Choices)

/-- An error and the command at which it shows, if it shows behind one. -/
abbrev Misuse := Option Verb × UsageError

/-- Reads the arguments of a command after `c`, which has been read before it. -/
def readCommand (c : Choices) (verb : Verb) (ts : List Text) : Except Misuse Asked := do
  let spellings := spellingsOf (some verb)
  let arguments ← (argumentsOf spellings ts).mapError (some verb, ·)
  let choices ← (readChoices spellings c arguments).mapError (some verb, ·)
  if choices.help then return .help (some verb)
  else if choices.extras.isEmpty then return .command verb choices
  else throw (none, .unrecognized choices.extras)

/-- Reads up to the command, where each argument stands beside its text. -/
def readTop (c : Choices) : List (Argument × Text) → Except Misuse Asked
  | [] => .error (none, .noCommand)
  | (.plain t, _) :: rest =>
    match Verb.ofName? t with
    | some verb => readCommand c verb (rest.map (·.2))
    | none => .error (none, .unknownCommand t)
  | [(.separator, _)] => .error (none, .noCommand)
  | (.separator, t) :: _ => .error (none, .unknownCommand t)
  | (.unknown t, _) :: rest => readTop (c.addExtra t) rest
  | (.flag f spelling value, _) :: rest =>
    match usesOf (spellingsOf none) (value.getD []).length f spelling value with
    | .error e => .error (none, e)
    | .ok uses =>
      let c := uses.foldl Choices.use c
      if c.help then .ok (.help none) else readTop c rest

def read (ts : List Text) : Except Misuse Asked := do
  let arguments ← (argumentsOf (spellingsOf none) ts).mapError (none, ·)
  readTop {} (arguments.zip ts)

end BodyDigest.CommandLine

import BodyDigest.Number.Numeral
import BodyDigest.Text.Lowercase
import BodyDigest.Yaml.Node

/-! Values of YAML documents. -/
namespace BodyDigest.Yaml

open Numeral (SignedNumber)

/-- A value; one that is shared is named by its anchor. -/
inductive Value where
  | null
  | bool (b : Bool)
  | integer (n : Int)
  | real (x : SignedNumber)
  | text (t : Text)
  | octets (bs : List UInt8)
  | date
  | list (items : List Value)
  | pairs (isEmpty : Bool)
  | set (isEmpty : Bool)
  | mapping (entries : List (Value × Value))
  | shared (anchor : Text)

/-! ### Scalars -/

namespace Scalar

def withoutUnderscores (t : Text) : Text := t.filter (· ≠ .char '_')

def boolValues : List (Text × Bool) :=
  [("yes", true), ("no", false), ("true", true), ("false", false), ("on", true), ("off", false)]

def bool? (t : Text) : Except Fault Value :=
  match boolValues.lookup t.lower with
  | some b => .ok (.bool b)
  | none => .error (.notBool t.lower)

/-- The sum of groups, each of which counts sixty times what the next one counts. -/
def sixtieths (groups : List Int) : Int := groups.foldl (fun acc g => acc * 60 + g) 0

/-- An integer without its sign: binary, hexadecimal, octal behind a zero, in groups of sixty, or
decimal. -/
def magnitude? (t : Text) : Except Fault Int :=
  let read (base : Nat) (t : Text) : Except Fault Int :=
    match Numeral.integer? base t with
    | some n => .ok n
    | none => .error .badNumber
  match t with
  | [] => .error .noNumber
  | [.char '0'] => .ok 0
  | .char '0' :: .char 'b' :: rest => read 2 rest
  | .char '0' :: .char 'x' :: rest => read 16 rest
  | .char '0' :: _ => read 8 t
  | _ =>
    if t.contains (.char ':') then (pieces (· = .char ':') t).mapM (read 10) |>.map sixtieths
    else read 10 t

/-- A sign and what follows it. -/
def signed (t : Text) : Bool × Text :=
  match t with
  | .char '-' :: rest => (true, rest)
  | .char '+' :: rest => (false, rest)
  | _ => (false, t)

def integer? (t : Text) : Except Fault Value :=
  match withoutUnderscores t with
  | [] => .error .noNumber
  | t =>
    let (negative, body) := signed t
    (magnitude? body).map fun n => .integer (if negative then -n else n)

/-- The sum from the last group on, rounded after every group. -/
def sexagesimal (groups : List SignedNumber) : SignedNumber :=
  (groups.reverse.foldl (fun (acc : SignedNumber × Nat) x => (acc.1.plus (x.times acc.2), acc.2 * 60))
    (.number false .zero, 1)).1

def realMagnitude? (t : Text) : Except Fault SignedNumber :=
  let read (t : Text) : Except Fault SignedNumber :=
    match Numeral.real? t with
    | some x => .ok x
    | none => .error .badNumber
  if t = (".inf" : Text) then .ok (.number false .infinite)
  else if t = (".nan" : Text) then .ok .notNumber
  else if t.contains (.char ':') then (pieces (· = .char ':') t).mapM read |>.map sexagesimal
  else read t

def real? (t : Text) : Except Fault Value :=
  match (withoutUnderscores t).lower with
  | [] => .error .noNumber
  | t =>
    let (negative, body) := signed t
    (realMagnitude? body).map fun x => .real (if negative then x.negated else x)

/-! ### Dates -/

def isLeap (year : Nat) : Bool := year % 4 = 0 && (year % 100 ≠ 0 || year % 400 = 0)

def daysOf (year month : Nat) : Nat :=
  if month = 2 then if isLeap year then 29 else 28
  else if month = 4 || month = 6 || month = 9 || month = 11 then 30
  else 31

def isDate (year month day : Nat) : Bool :=
  1 ≤ year && 1 ≤ month && month ≤ 12 && 1 ≤ day && day ≤ daysOf year month

def isTime (hour minute second : Nat) : Bool := hour < 24 && minute < 60 && second < 60

/-- An offset of less than a day. -/
def isOffset (hour minute : Nat) : Bool := hour * 60 + minute < 1440

def isMoment (m : Tag.Moment) : Bool :=
  isDate (Numeral.natOf m.year) (Numeral.natOf m.month) (Numeral.natOf m.day)
    && m.time.all (fun (h, min, s, _) =>
      isTime (Numeral.natOf h) (Numeral.natOf min) (Numeral.natOf s))
    && m.offset.all fun (h, min) => isOffset (Numeral.natOf h) (Numeral.natOf min)

def date? (t : Text) : Except Fault Value :=
  let cs := t.chars?.getD []
  let cs := if cs.getLast? = some '\n' then cs.dropLast else cs
  match Tag.moment? cs with
  | some m => if isMoment m then .ok .date else .error .badDate
  | none => .error .notDate

/-! ### Octets -/

def sixBits? (c : Char) : Option Nat :=
  if 'A' ≤ c && c ≤ 'Z' then some (c.toNat - 65)
  else if 'a' ≤ c && c ≤ 'z' then some (c.toNat - 71)
  else if '0' ≤ c && c ≤ '9' then some (c.toNat + 4)
  else if c = '+' then some 62
  else if c = '/' then some 63
  else none

/-- Octets of groups of four characters. `place` counts in a group, `held` are the bits that are
left, and `padding` counts equals signs; other characters do not count. -/
def octetsOf (place held padding : Nat) : List Char → Option (List UInt8)
  | [] => if place = 0 then some [] else none
  | c :: rest =>
    if c = '=' then
      if 2 ≤ place then
        if 4 ≤ place + padding + 1 then some [] else octetsOf place held (padding + 1) rest
      else octetsOf place held padding rest
    else
      match sixBits? c with
      | none => octetsOf place held padding rest
      | some v =>
        let octet (bits : Nat) (more : Option (List UInt8)) := more.map (UInt8.ofNat bits :: ·)
        match place with
        | 0 => octetsOf 1 v 0 rest
        | 1 => octet (held * 4 + v / 16) (octetsOf 2 (v % 16) 0 rest)
        | 2 => octet (held * 16 + v / 4) (octetsOf 3 (v % 4) 0 rest)
        | _ => octet (held * 64 + v) (octetsOf 0 0 0 rest)

def octets? (t : Text) : Except Fault Value :=
  match t.chars? with
  | none => .error .malformed
  | some cs =>
    if cs.all (·.toNat < 128) then
      match octetsOf 0 0 0 cs with
      | some bs => .ok (.octets bs)
      | none => .error .malformed
    else .error .malformed

/-- The value of a scalar under its tag. -/
def value? (tag : Tag) (t : Text) : Except Fault Value :=
  match tag with
  | .null => .ok .null
  | .bool => bool? t
  | .integer => integer? t
  | .real => real? t
  | .timestamp => date? t
  | .binary => octets? t
  | .text => .ok (.text t)
  | _ => .error .malformed

end Scalar

/-! ### Merging -/

/-- Whether a tag makes a collection of what it stands at. -/
inductive Made where
  | scalar
  | list
  | pairs
  | set
  | mapping
  deriving DecidableEq

def Tag.makes : Tag → Made
  | .sequence => .list
  | .mapping => .mapping
  | .set => .set
  | .orderedPairs | .pairs => .pairs
  | _ => .scalar

def Node.tag : Node → Tag
  | .scalar tag _ | .sequence tag _ | .mapping tag _ => tag
  | .reference _ => .unknown

namespace Document

/-- The node itself, not an alias of it. -/
def follow (d : Document) (n : Node) : Node :=
  match n with
  | .reference name => (d.anchors.lookup name).getD n
  | _ => n

/-- A key of the form `=` is a text in a mapping. -/
def asKey (n : Node) : Node :=
  match n with
  | .scalar .value t => .scalar .text t
  | _ => n

abbrev Entries := List (Node × Node)

def isMerge (e : Node × Node) : Bool := e.1.tag = .merge

/-- The entries that are merged into a mapping come before its own ones; of several mappings, the
first one comes last. -/
def mergedEntries (d : Document) : Nat → Entries → Except Fault Entries
  | 0, es => .ok (es.filter (!isMerge ·))
  | n + 1, es => do
    let merged ← (es.filter isMerge).mapM fun e =>
      match d.follow e.2 with
      | .mapping _ inner => mergedEntries d n inner
      | .sequence _ items => do
        let parts ← items.mapM fun i =>
          match d.follow i with
          | .mapping _ inner => mergedEntries d n inner
          | _ => .error .malformed
        return parts.reverse.flatten
      | _ => .error .malformed
    return merged.flatten ++ (es.filter (!isMerge ·)).map fun e => (asKey e.1, e.2)

/-- Mappings are not merged into one another more deeply than this. -/
def mergeDepth (d : Document) : Nat := d.anchors.length + 1

def entriesOf (d : Document) (es : Entries) : Except Fault Entries := d.mergedEntries d.mergeDepth es

/-! ### Values -/

/-- The text of a scalar; that of a mapping stands behind the key `=`. -/
def scalarText? (d : Document) : Nat → Node → Except Fault Text
  | 0, _ => .error .malformed
  | n + 1, node =>
    match d.follow node with
    | .scalar _ t => .ok t
    | .mapping _ es =>
      match es.find? fun e => (d.follow e.1).tag = .value with
      | some e => scalarText? d n e.2
      | none => .error .malformed
    | _ => .error .malformed

/-- Whether what a node makes may be a key. -/
def isKey (d : Document) (n : Node) : Bool := (d.follow n).tag.makes = .scalar

/-- What an unfit node is replaced by where its fault is reported elsewhere. -/
def orNull (e : Except Fault Value) : Value :=
  match e with
  | .ok v => v
  | .error _ => .null

def scalarValue? (d : Document) (n : Node) : Except Fault Value := do
  Scalar.value? n.tag (← d.scalarText? (d.anchors.length + 2) n)

mutual

/-- The value of a node; only documents without faults have one. -/
def valueOf (d : Document) : Nat → Node → Value
  | 0, _ => .null
  | n + 1, node =>
    match node, node.tag.makes with
    | .reference name, _ => .shared name
    | .sequence _ items, .list => .list (valuesOf d n items)
    | .sequence _ items, .pairs => .pairs items.isEmpty
    | .mapping _ es, .mapping =>
      match d.entriesOf es with
      | .ok all => .mapping (pairsOf d n all)
      | .error _ => .null
    | .mapping _ es, .set => .set es.isEmpty
    | _, _ => orNull (d.scalarValue? node)

def valuesOf (d : Document) : Nat → List Node → List Value
  | 0, _ | _, [] => []
  | n + 1, node :: rest => valueOf d n node :: valuesOf d n rest

def pairsOf (d : Document) : Nat → Entries → List (Value × Value)
  | 0, _ | _, [] => []
  | n + 1, (k, v) :: rest => (valueOf d n k, valueOf d n v) :: pairsOf d n rest

end

/-! ### Faults -/

/-- A fault and the depth at which it shows. -/
abbrev Finding := Nat × Fault

def finding {α : Type} (depth : Nat) : Except Fault α → List Finding
  | .ok _ => []
  | .error f => [(depth, f)]

mutual

/-- The faults of a node at `depth`. Aliases have none of their own. -/
def faultsOf (d : Document) (depth : Nat) : Nat → Node → List Finding
  | 0, _ => []
  | n + 1, node =>
    match node, node.tag.makes with
    | .reference _, _ => []
    | _, .scalar => finding depth (d.scalarValue? node)
    | .sequence _ items, .list => faultsIn d (depth + 1) n items
    | .sequence _ items, .pairs => pairFaults d (depth + 1) n items
    | .mapping _ es, .mapping | .mapping _ es, .set =>
      match d.entriesOf es with
      | .ok all => entryFaults d (depth + 1) n all
      | .error f => [(depth + 1, f)]
    | _, _ => [(depth + 1, .malformed)]

def faultsIn (d : Document) (depth : Nat) : Nat → List Node → List Finding
  | 0, _ | _, [] => []
  | n + 1, node :: rest => faultsOf d depth n node ++ faultsIn d depth n rest

/-- Every item is a mapping with one entry. -/
def pairFaults (d : Document) (depth : Nat) : Nat → List Node → List Finding
  | 0, _ | _, [] => []
  | n + 1, node :: rest =>
    match d.follow node with
    | .mapping _ [(k, v)] =>
      faultsOf d depth n k ++ faultsOf d depth n v ++ pairFaults d depth n rest
    | _ => [(depth, .malformed)]

def entryFaults (d : Document) (depth : Nat) : Nat → Entries → List Finding
  | 0, _ | _, [] => []
  | n + 1, (k, v) :: rest =>
    let ofKey := if d.isKey k then [] else [(depth, Fault.malformed)]
    faultsOf d depth n k ++ ofKey ++ faultsOf d depth n v ++ entryFaults d depth n rest

end

/-- The first of the findings at the least depth. -/
def firstFault : List Finding → Option Finding
  | [] => none
  | (depth, f) :: rest =>
    match firstFault rest with
    | some (e, g) => if e < depth then some (e, g) else some (depth, f)
    | none => some (depth, f)

end Document

mutual

def Node.size : Node → Nat
  | .scalar _ _ | .reference _ => 1
  | .sequence _ items => 1 + Node.sizeOf items
  | .mapping _ es => 1 + Node.sizeOfPairs es

def Node.sizeOf : List Node → Nat
  | [] => 1
  | n :: rest => n.size + Node.sizeOf rest

def Node.sizeOfPairs : List (Node × Node) → Nat
  | [] => 1
  | (k, v) :: rest => k.size + v.size + Node.sizeOfPairs rest

end

/-- A value with the values of its anchors. -/
structure Loaded where
  root : Value
  shared : List (Text × Value)

/-- More steps than the reading of any value of a document takes. -/
def Document.fuel (d : Document) : Nat :=
  let all := d.root :: d.anchors.map (·.2)
  all.foldl (fun total node => total + node.size) 0 * (d.anchors.length + 2) + 8

/-- The value of a document; the fault nearest to its root is the one that counts. -/
def Document.load (d : Document) : Except Fault Loaded :=
  match Document.firstFault (d.faultsOf 0 d.fuel d.root) with
  | some (_, f) => .error f
  | none =>
    .ok ⟨d.valueOf d.fuel d.root, d.anchors.map fun a => (a.1, d.valueOf d.fuel a.2)⟩

/-- The value of a text with unified line ends; a text without a document is null. -/
def load (cs : List Char) : Except Fault Loaded := do
  match ← Document.ofChars cs with
  | some d => d.load
  | none => return ⟨.null, []⟩

namespace Loaded

/-- The value itself where one is shared. -/
def follow (l : Loaded) (v : Value) : Value :=
  match v with
  | .shared name => (l.shared.lookup name).getD .null
  | _ => v

/-- The value behind a text as key; the last entry counts. -/
def entry? (l : Loaded) (entries : List (Value × Value)) (key : Text) : Option Value :=
  (entries.reverse.find? fun e =>
    match l.follow e.1 with
    | .text t => t = key
    | _ => false).map fun e => l.follow e.2

end Loaded

/-- Whether a value counts as nothing: null, false, zero, or empty. -/
def Value.isEmpty : Value → Bool
  | .null | .bool false | .integer 0 => true
  | .real x => x.isZero
  | .text t => t.isEmpty
  | .octets bs => bs.isEmpty
  | .list items => items.isEmpty
  | .pairs e | .set e => e
  | .mapping es => es.isEmpty
  | _ => false

end BodyDigest.Yaml
